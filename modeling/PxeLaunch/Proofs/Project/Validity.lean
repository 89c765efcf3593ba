import PxeLaunch.Project.Basic
import PxeLaunch.Proofs.Profile.Registry

/-!
No invalid profile is launched. A change of the manifest is kept only if the changed profile is
valid, and it cannot move a profile to another architecture; what the command line changes at the
end has no part in what makes a profile valid. Main statement: the table of a project's profiles is
full and valid, and the profile that is launched is the one in its place with the command line's
changes.
-/

set_option autoImplicit false

namespace PxeLaunch

private theorem Architecture.ofName_eq_ok {name : String} {a : Architecture} :
    Architecture.ofName name = .ok a ↔ Architecture.ofName? name = some a := by
  cases h : Architecture.ofName? name <;> simp [Architecture.ofName, h]

theorem Override.apply_eq_ok {o : Override} {p q : Profile} :
    o.apply p = .ok q ↔ ∃ acceleration, o.newAcceleration p = .ok acceleration ∧
      q = { p with
        firmware := { p.firmware with path := o.firmware.or p.firmware.path }
        memoryMb := o.memoryMb.getD p.memoryMb
        processors := o.processors.getD p.processors
        cpuModel := o.cpuModel.or p.cpuModel
        acceleration
        buildMode := o.buildMode.getD p.buildMode } := by
  simp only [Override.apply, bind_eq_ok, pure_eq_ok, eq_comm (a := q)]

private theorem Override.architecture_of_apply {o : Override} {p q : Profile}
    (h : o.apply p = .ok q) : q.architecture = p.architecture := by
  obtain ⟨acceleration, -, rfl⟩ := Override.apply_eq_ok.mp h
  rfl

namespace Project

variable {r r' : Registry}

/-! ### The changes of the manifest -/

theorem applyOverride_eq_ok {name : String} {o : Override} :
    applyOverride r name o = .ok r' ↔ ∃ a, Architecture.ofName? name = some a ∧
      (r.get? a = none ∧ r' = r ∨
        ∃ p q, r.get? a = some p ∧ o.apply p = .ok q ∧ q.isValid = true ∧ r' = r.put a q) := by
  simp only [applyOverride, bind_eq_ok, mapError_eq_ok, ProjectError.ofProfile_eq_ok,
    Architecture.ofName_eq_ok]
  refine exists_congr fun a => and_congr_right fun _ => ?_
  cases r.get? a with
  | none =>
    simp only [pure_eq_ok, reduceCtorEq, false_and, exists_false, or_false, true_and]
    exact eq_comm
  | some p =>
    simp only [bind_eq_ok, pure_eq_ok, ProjectError.ofProfile_eq_ok, Profile.checkValid_eq_ok,
      Option.some.injEq, reduceCtorEq, false_and, exists_and_left, exists_eq_left', false_or,
      exists_const, eq_comm (a := r')]

private theorem applyOverride_isSound_isFull {name : String} {o : Override}
    (hs : r.IsSound) (hf : r.IsFull) (h : applyOverride r name o = .ok r') :
    r'.IsSound ∧ r'.IsFull := by
  obtain ⟨a, -, ⟨-, rfl⟩ | ⟨p, q, hp, hq, hvalid, rfl⟩⟩ := applyOverride_eq_ok.mp h
  · exact ⟨hs, hf⟩
  · have ha : q.architecture = a := (Override.architecture_of_apply hq).trans (hs a p hp).1
    subst ha
    exact ⟨hs.put hvalid, hf.put _ q⟩

private theorem applyOverrides_isSound_isFull {os : List (String × Override)}
    (hs : r.IsSound) (hf : r.IsFull) (h : applyOverrides r os = .ok r') :
    r'.IsSound ∧ r'.IsFull := by
  induction os generalizing r with
  | nil =>
    rw [applyOverrides, Except.ok.injEq] at h
    exact h ▸ ⟨hs, hf⟩
  | cons entry rest ih =>
    obtain ⟨next, hnext, hrest⟩ := bind_eq_ok.mp h
    obtain ⟨hs', hf'⟩ := applyOverride_isSound_isFull hs hf hnext
    exact ih hs' hf' hrest

theorem registry_isSound_isFull {files : Files} {project : Project}
    (h : project.registry files = .ok r) : r.IsSound ∧ r.IsFull := by
  obtain ⟨loaded, hloaded, hrest⟩ := bind_eq_ok.mp h
  obtain ⟨hs, hf⟩ := Profile.loadRegistry_isSound_isFull
    (ProjectError.ofProfile_eq_ok.mp (mapError_eq_ok.mp hloaded))
  cases hm : project.manifest with
  | none =>
    simp only [hm, pure_eq_ok] at hrest
    exact hrest ▸ ⟨hs, hf⟩
  | some m =>
    simp only [hm] at hrest
    exact applyOverrides_isSound_isFull hs hf hrest

/-! ### The changes of the command line -/

private theorem adjust_eq (release withoutAcceleration : Bool) (p : Profile) :
    adjust release withoutAcceleration p =
      { p with
        buildMode := if release then .release else p.buildMode
        acceleration := if withoutAcceleration then none else p.acceleration } := by
  cases release <;> cases withoutAcceleration <;> rfl

private theorem issues_adjust (release withoutAcceleration : Bool) (p : Profile) :
    (adjust release withoutAcceleration p).issues = p.issues := by
  rw [adjust_eq]
  rfl

theorem isValid_adjust (release withoutAcceleration : Bool) (p : Profile) :
    (adjust release withoutAcceleration p).isValid = p.isValid := by
  rw [Profile.isValid, Profile.isValid, issues_adjust]

theorem profile_eq_ok {files : Files} {project : Project} {a : Architecture}
    {release withoutAcceleration : Bool} {p : Profile} :
    project.profile files a release withoutAcceleration = .ok p ↔
      ∃ r q, project.registry files = .ok r ∧ r.get? a = some q ∧ q.isSupported = true ∧
        p = adjust release withoutAcceleration q := by
  simp only [profile, bind_eq_ok, pure_eq_ok, ProjectError.ofProfile_eq_ok,
    Registry.resolve_eq_ok, eq_comm (a := p)]
  constructor
  · rintro ⟨r, hr, q, ⟨hq, hs⟩, rfl⟩
    exact ⟨r, q, hr, hq, hs, rfl⟩
  · rintro ⟨r, q, hr, hq, hs, rfl⟩
    exact ⟨r, hr, q, ⟨hq, hs⟩, rfl⟩

/-! ### What is launched -/

/-- Whatever stands in the folder of a project and in its manifest: its table of profiles has one
profile for each architecture, in the place of that architecture, and all of them are valid. What is
launched is the profile in the place of the architecture, supported and still valid, with no other
changes than those that the command line asks for. -/
theorem registry_valid_and_profile_valid (files : Files) (project : Project) :
    (∀ r, project.registry files = .ok r →
      r.toList.map Profile.architecture = Architecture.all ∧
      ∀ a, ∃ p, r.get? a = some p ∧ p.architecture = a ∧ p.isValid = true) ∧
    ∀ a release withoutAcceleration p,
      project.profile files a release withoutAcceleration = .ok p →
      p.architecture = a ∧ p.isSupported = true ∧ p.isValid = true ∧
      (release = true → p.buildMode = .release) ∧
      (withoutAcceleration = true → p.acceleration = none) ∧
      ∃ r q, project.registry files = .ok r ∧ r.get? a = some q ∧
        p = { q with
          buildMode := if release then .release else q.buildMode
          acceleration := if withoutAcceleration then none else q.acceleration } := by
  constructor
  · intro r hr
    obtain ⟨hs, hf⟩ := registry_isSound_isFull hr
    refine ⟨Registry.map_architecture_toList hs hf, fun a => ?_⟩
    obtain ⟨p, hp⟩ := hf a
    exact ⟨p, hp, hs a p hp⟩
  · intro a release withoutAcceleration p hp
    obtain ⟨r, q, hr, hq, hsupported, rfl⟩ := profile_eq_ok.mp hp
    obtain ⟨ha, hvalid⟩ := (registry_isSound_isFull hr).1 a q hq
    refine ⟨?_, ?_, (isValid_adjust _ _ q).trans hvalid, ?_, ?_, r, q, hr, hq, adjust_eq _ _ q⟩
    · rw [adjust_eq, ← ha]
    · rw [adjust_eq]
      exact hsupported
    · intro hrelease
      rw [adjust_eq, if_pos hrelease]
    · intro hwithout
      rw [adjust_eq, if_pos hwithout]

/-- A project with a profile of its own, which its manifest changes under its name and under an
alias of it. -/
def renamed : Project where
  dir := .ofString "boot"
  manifest := some {
    projectName := "boot"
    toolchain := .blank
    programs := []
    overrides := [
      ("AMD64", { Override.blank with memoryMb := some 1024, acceleration := some "kvm" }),
      ("x86_64", { Override.blank with processors := some 3 })] }

def renamedFiles : Files where
  entries := [
    ([.ofString "boot"], .folder),
    ([.ofString "boot", .ofString "profiles"], .folder),
    ([.ofString "boot", .ofString "profiles", .ofString "small.profile.toml"],
      .file (.ofString ("architecture = \"x86_64\"\nbuild-target = \"x86_64-unknown-uefi\"\n" ++
        "network-device = \"e1000\"\nmemory-mb = 512\nsmp = 1\n" ++
        "[firmware]\nkind = \"ovmf\"\n")) false)]
  here := []

theorem registry_valid_and_profile_valid_renamed :
    (∃ r, renamed.registry renamedFiles = .ok r ∧
      r.toList.map Profile.architecture = Architecture.all) ∧
    ∃ p, renamed.profile renamedFiles .x86_64 true true = .ok p ∧ p.memoryMb = 1024 ∧
      p.processors = 3 ∧ p.architecture = .x86_64 ∧ p.isSupported = true ∧ p.isValid = true ∧
      p.buildMode = .release ∧ p.acceleration = none := by
  have hprofile : renamed.profile renamedFiles .x86_64 true true = .ok { Profile.x86_64 with
      buildMode := .release, memoryMb := 1024, processors := 3, acceleration := none
      firmware := ⟨.ovmf, none⟩, noise := [] } := by
    rw [← toOption_eq_some]
    decide +kernel
  obtain ⟨hregistry, hvalid⟩ := registry_valid_and_profile_valid renamedFiles renamed
  obtain ⟨ha, hs, hv, hrelease, hwithout, r, -, hr, -⟩ := hvalid _ _ _ _ hprofile
  exact ⟨⟨r, hr, (hregistry r hr).1⟩, _, hprofile, rfl, rfl, ha, hs, hv, hrelease rfl,
    hwithout rfl⟩

end Project

end PxeLaunch

import PxeLaunch.Proofs.Project.Manifest
import PxeLaunch.Proofs.Project.Validity

/-!
The changes of a manifest, section by section. A section is for the architecture that its name
stands for; several may be for the same one. Main statement: each field that sections can set has
the value of the last section that sets it, all other fields are as loaded, and if a section cannot
be used there are no profiles at all.
-/

set_option autoImplicit false

namespace PxeLaunch

namespace Override

variable {α : Type} {os : List Override} {o : Override}

/-- The value of a field in the last of the changes that set it. -/
def lastSet (field : Override → Option α) (os : List Override) : Option α :=
  (os.filterMap field).getLast?

private theorem lastSet_concat (field : Override → Option α) (os : List Override) (o : Override) :
    lastSet field (os ++ [o]) = (field o).or (lastSet field os) := by
  rw [lastSet, List.filterMap_append]
  cases h : field o with
  | none => simp [h, lastSet]
  | some a => simp [h]

private theorem accelerationOf?_ne_none_iff {word : String} :
    accelerationOf? word ≠ none ↔ word = "none" ∨ word = "kvm" ∨ word = "hvf" := by
  unfold accelerationOf?
  split <;> simp_all

private theorem newAcceleration_eq_ok {p : Profile} {mode : Option Acceleration} :
    o.newAcceleration p = .ok mode ↔
      (∀ word, o.acceleration = some word → accelerationOf? word ≠ none) ∧
        mode = (o.acceleration.bind accelerationOf?).getD p.acceleration := by
  rw [newAcceleration]
  cases o.acceleration with
  | none => simp [eq_comm]
  | some word => cases h : accelerationOf? word <;> simp [h, eq_comm]

end Override

/-- The profile with changes, the last of which decides each field. -/
def Profile.changed (p : Profile) (os : List Override) : Profile :=
  { p with
    firmware := { p.firmware with path := (Override.lastSet (·.firmware) os).or p.firmware.path }
    memoryMb := (Override.lastSet (·.memoryMb) os).getD p.memoryMb
    processors := (Override.lastSet (·.processors) os).getD p.processors
    cpuModel := (Override.lastSet (·.cpuModel) os).or p.cpuModel
    acceleration :=
      ((Override.lastSet (·.acceleration) os).bind Override.accelerationOf?).getD p.acceleration
    buildMode := (Override.lastSet (·.buildMode) os).getD p.buildMode }

private theorem Profile.changed_concat {os : List Override} {o : Override} (p : Profile)
    (hknown : ∀ word, o.acceleration = some word → Override.accelerationOf? word ≠ none) :
    p.changed (os ++ [o]) = { p.changed os with
      firmware := { (p.changed os).firmware with
        path := o.firmware.or (p.changed os).firmware.path }
      memoryMb := o.memoryMb.getD (p.changed os).memoryMb
      processors := o.processors.getD (p.changed os).processors
      cpuModel := o.cpuModel.or (p.changed os).cpuModel
      acceleration :=
        (o.acceleration.bind Override.accelerationOf?).getD (p.changed os).acceleration
      buildMode := o.buildMode.getD (p.changed os).buildMode } := by
  -- A word that is known hides what earlier changes say.
  have hmode (earlier : Option String) (mode : Option Acceleration) :
      ((o.acceleration.or earlier).bind Override.accelerationOf?).getD mode =
        (o.acceleration.bind Override.accelerationOf?).getD
          ((earlier.bind Override.accelerationOf?).getD mode) := by
    cases h : o.acceleration with
    | none => rfl
    | some word =>
      obtain ⟨known, hword⟩ := Option.ne_none_iff_exists'.mp (hknown word h)
      simp [hword]
  simp only [changed, Override.lastSet_concat, Option.getD_or, Option.or_assoc, hmode]

private theorem Override.apply_changed_eq_ok {os : List Override} {o : Override} {p q : Profile} :
    o.apply (p.changed os) = .ok q ↔
      (∀ word, o.acceleration = some word → accelerationOf? word ≠ none) ∧
        q = p.changed (os ++ [o]) := by
  simp only [apply_eq_ok, newAcceleration_eq_ok]
  constructor
  · rintro ⟨_, ⟨hknown, rfl⟩, rfl⟩
    exact ⟨hknown, (p.changed_concat hknown).symm⟩
  · rintro ⟨hknown, rfl⟩
    exact ⟨_, ⟨hknown, rfl⟩, p.changed_concat hknown⟩

/-! ### Sections -/

namespace Project

def overrides (project : Project) : List (String × Override) :=
  (project.manifest.map Manifest.overrides).getD []

def changesFor (a : Architecture) (sections : List (String × Override)) : List Override :=
  sections.filterMap fun (name, o) => if Architecture.ofName? name = some a then some o else none

private theorem changesFor_concat_self {name : String} {a : Architecture}
    (ha : Architecture.ofName? name = some a) (before : List (String × Override)) (o : Override) :
    changesFor a (before ++ [(name, o)]) = changesFor a before ++ [o] := by
  simp [changesFor, ha]

private theorem changesFor_concat_of_ne {name : String} {a b : Architecture}
    (ha : Architecture.ofName? name = some a) (hne : b ≠ a) (before : List (String × Override))
    (o : Override) : changesFor b (before ++ [(name, o)]) = changesFor b before := by
  simp [changesFor, ha, Ne.symm hne]

/-- The profiles with the changes of sections. -/
def changedBy (loaded : Registry) (sections : List (String × Override)) : Registry :=
  ⟨fun a => (loaded.get? a).map (·.changed (changesFor a sections))⟩

private theorem get?_changedBy (loaded : Registry) (sections : List (String × Override))
    (a : Architecture) : (changedBy loaded sections).get? a =
      (loaded.get? a).map (·.changed (changesFor a sections)) := rfl

/-- Whether a section can be used after others: its name stands for an architecture, it asks for no
acceleration that there is not, and the profile is valid with its change. -/
def Fits (loaded : Registry) (before : List (String × Override)) (s : String × Override) : Prop :=
  ∃ a p, Architecture.ofName? s.1 = some a ∧ loaded.get? a = some p ∧
    (∀ word, s.2.acceleration = some word → word = "none" ∨ word = "kvm" ∨ word = "hvf") ∧
    (p.changed (changesFor a (before ++ [s]))).isValid = true

variable {loaded r : Registry} {before : List (String × Override)}

/-- A section that can be used adds its change to those before it; with any other there are no
profiles. -/
private theorem applyOverride_changedBy_eq_ok (hfull : loaded.IsFull) {name : String}
    {o : Override} :
    applyOverride (changedBy loaded before) name o = .ok r ↔
      Fits loaded before (name, o) ∧ r = changedBy loaded (before ++ [(name, o)]) := by
  have hput {a : Architecture} {p : Profile} (ha : Architecture.ofName? name = some a)
      (hp : loaded.get? a = some p) :
      (changedBy loaded before).put a (p.changed (changesFor a before ++ [o])) =
        changedBy loaded (before ++ [(name, o)]) := by
    refine congrArg Registry.mk (funext fun b => ?_)
    split
    · next hb => rw [hb, hp, changesFor_concat_self ha]; rfl
    · next hb => rw [changesFor_concat_of_ne ha hb]; rfl
  simp only [applyOverride_eq_ok, Fits, ← Override.accelerationOf?_ne_none_iff]
  constructor
  · rintro ⟨a, ha, ⟨hnone, -⟩ | ⟨p', q, hp', hq, hvalid, rfl⟩⟩
    · obtain ⟨p, hp⟩ := hfull a
      rw [get?_changedBy, hp] at hnone
      cases hnone
    · obtain ⟨p, hp, rfl⟩ := Option.map_eq_some_iff.mp hp'
      obtain ⟨hknown, rfl⟩ := Override.apply_changed_eq_ok.mp hq
      rw [← changesFor_concat_self ha] at hvalid
      exact ⟨⟨a, p, ha, hp, hknown, hvalid⟩, hput ha hp⟩
  · rintro ⟨⟨a, p, ha, hp, hknown, hvalid⟩, rfl⟩
    rw [changesFor_concat_self ha] at hvalid
    refine ⟨a, ha, .inr ⟨p.changed (changesFor a before), _, ?_,
      Override.apply_changed_eq_ok.mpr ⟨hknown, rfl⟩, hvalid, (hput ha hp).symm⟩⟩
    rw [get?_changedBy, hp]
    rfl

private theorem applyOverrides_changedBy_eq_ok (hfull : loaded.IsFull)
    {sections : List (String × Override)} :
    applyOverrides (changedBy loaded before) sections = .ok r ↔
      (∀ front s rest, sections = front ++ s :: rest → Fits loaded (before ++ front) s) ∧
        r = changedBy loaded (before ++ sections) := by
  induction sections generalizing before with
  | nil => simp [applyOverrides, eq_comm]
  | cons s sections ih =>
    obtain ⟨name, o⟩ := s
    simp only [applyOverrides, bind_eq_ok, applyOverride_changedBy_eq_ok hfull]
    constructor
    · rintro ⟨_, ⟨hfirst, rfl⟩, hrest⟩
      obtain ⟨hlater, rfl⟩ := ih.mp hrest
      refine ⟨fun front s rest heq => ?_, by rw [List.append_assoc]; rfl⟩
      rcases List.cons_eq_append_iff.mp heq with ⟨rfl, hs⟩ | ⟨front, rfl, rfl⟩
      · obtain ⟨rfl, -⟩ := List.cons.inj hs
        simpa using hfirst
      · simpa using hlater front s rest rfl
    · rintro ⟨hall, rfl⟩
      refine ⟨_, ⟨by simpa using hall [] (name, o) sections rfl, rfl⟩, ih.mpr ⟨?_, ?_⟩⟩
      · rintro front s rest rfl
        simpa using hall ((name, o) :: front) s rest rfl
      · rw [List.append_assoc]
        rfl

private theorem changedBy_nil (loaded : Registry) : changedBy loaded [] = loaded := by
  refine congrArg Registry.mk (funext fun a => ?_)
  cases h : loaded.get? a with
  | none => exact h.symm
  | some p => exact h.symm

private theorem registry_eq_ok {files : Files} {project : Project} :
    project.registry files = .ok r ↔
      ∃ loaded, Profile.loadRegistry files project.dir = .ok loaded ∧
        (∀ before s after, project.overrides = before ++ s :: after → Fits loaded before s) ∧
        r = changedBy loaded project.overrides := by
  have happly {loaded : Registry} (hloaded : Profile.loadRegistry files project.dir = .ok loaded) :
      applyOverrides loaded project.overrides = .ok r ↔
        (∀ before s after, project.overrides = before ++ s :: after → Fits loaded before s) ∧
          r = changedBy loaded project.overrides := by
    have hfull := (Profile.loadRegistry_isSound_isFull hloaded).2
    have hrun : applyOverrides (changedBy loaded []) project.overrides = .ok r ↔ _ :=
      applyOverrides_changedBy_eq_ok hfull
    simpa only [changedBy_nil, List.nil_append] using hrun
  rw [registry, bind_eq_ok]
  simp only [mapError_eq_ok, ProjectError.ofProfile_eq_ok]
  refine exists_congr fun loaded => and_congr_right fun hloaded => ?_
  rw [← happly hloaded, overrides]
  cases project.manifest <;> rfl

/-- Sections are used in the order of the bytes of their names, and several may be for one
architecture. If there are profiles, each field that sections can set has the value of the last
section for the profile's architecture that sets it, and everything else is as loaded. There are
none if a section has a name that stands for no architecture, asks for an acceleration that there
is not, or leaves a profile that is not valid. -/
theorem registry_by_last_change (files : Files) (project : Project) :
    (∀ text m, Manifest.ofToml text = .ok m →
      m.overrides.Pairwise fun s t => Bytes.ofString s.1 < Bytes.ofString t.1) ∧
    (∀ r, project.registry files = .ok r ↔
      ∃ loaded, Profile.loadRegistry files project.dir = .ok loaded ∧
        (∀ before s after, project.overrides = before ++ s :: after → Fits loaded before s) ∧
        ∀ a, ∃ p, loaded.get? a = some p ∧
          r.get? a = some (p.changed (changesFor a project.overrides))) ∧
    ∀ before name o after, project.overrides = before ++ (name, o) :: after →
      (Architecture.ofName? name = none ∨
        (∃ word, o.acceleration = some word ∧ word ≠ "none" ∧ word ≠ "kvm" ∧ word ≠ "hvf") ∨
        ∃ loaded a p, Profile.loadRegistry files project.dir = .ok loaded ∧
          Architecture.ofName? name = some a ∧ loaded.get? a = some p ∧
          (p.changed (changesFor a (before ++ [(name, o)]))).isValid = false) →
      ∃ e, project.registry files = .error e := by
  refine ⟨fun text m h => (Manifest.pairwise_of_ofToml h).2, fun r => ?_, ?_⟩
  · rw [registry_eq_ok]
    refine exists_congr fun loaded => and_congr_right fun hloaded => and_congr_right fun _ => ?_
    obtain ⟨-, hfull⟩ := Profile.loadRegistry_isSound_isFull hloaded
    constructor
    · rintro rfl a
      obtain ⟨p, hp⟩ := hfull a
      exact ⟨p, hp, by rw [get?_changedBy, hp]; rfl⟩
    · intro hslots
      refine congrArg Registry.mk (funext fun a => ?_)
      obtain ⟨p, hp, hr⟩ := hslots a
      rw [hp]
      exact hr
  · rintro before name o after hsplit hbad
    cases hregistry : project.registry files with
    | error e => exact ⟨e, rfl⟩
    | ok r =>
      obtain ⟨loaded, hloaded, hfits, -⟩ := registry_eq_ok.mp hregistry
      obtain ⟨a, p, ha, hp, hknown, hvalid⟩ := hfits before (name, o) after hsplit
      exfalso
      rcases hbad with hname | ⟨word, hword, hne⟩ | ⟨loaded', a', p', hloaded', ha', hp', hinvalid⟩
      · cases ha.symm.trans hname
      · rcases hknown word hword with rfl | rfl | rfl <;> simp at hne
      · cases hloaded.symm.trans hloaded'
        cases ha.symm.trans ha'
        cases hp.symm.trans hp'
        rw [hvalid] at hinvalid
        cases hinvalid

/-- A project whose manifest has a section for an architecture that there is not. -/
def misnamed : Project where
  dir := .ofString "boot"
  manifest := some {
    projectName := "boot"
    toolchain := .blank
    programs := []
    overrides := [
      ("riscv", { Override.blank with memoryMb := some 256 }),
      ("sparc", { Override.blank with memoryMb := some 256 })] }

theorem registry_by_last_change_renamed :
    (∃ r p, renamed.registry renamedFiles = .ok r ∧ r.get? .x86_64 = some p ∧
      p.memoryMb = 1024 ∧ p.processors = 3 ∧ p.acceleration = some .kvm) ∧
    ∃ e, misnamed.registry renamedFiles = .error e := by
  constructor
  · have hloads : (renamed.registry renamedFiles).toOption.isSome = true := by decide +kernel
    obtain ⟨r, hr⟩ := Option.isSome_iff_exists.mp hloads
    rw [toOption_eq_some] at hr
    have hchanges : changesFor .x86_64 renamed.overrides =
        [{ Override.blank with memoryMb := some 1024, acceleration := some "kvm" },
          { Override.blank with processors := some 3 }] := by
      decide
    obtain ⟨-, hregistry, -⟩ := registry_by_last_change renamedFiles renamed
    obtain ⟨loaded, -, -, hslots⟩ := (hregistry r).mp hr
    obtain ⟨p, -, hp⟩ := hslots .x86_64
    rw [hchanges] at hp
    exact ⟨r, _, hr, hp, rfl, rfl, rfl⟩
  · obtain ⟨-, -, hfails⟩ := registry_by_last_change renamedFiles misnamed
    exact hfails [("riscv", { Override.blank with memoryMb := some 256 })] "sparc" _ [] rfl
      (.inl (by decide))

end Project

end PxeLaunch

import PxeLaunch.Project.Basic
import PxeLaunch.Proofs.Launch.Places
import PxeLaunch.Proofs.Profile.Registry

/-!
The folders that images are left in. An image belongs below the folder for output, in a folder for
its target and its mode. Main statement: it is there whatever the folder for output is exactly if
neither the target nor the name of the image starts at the root, as each of them is joined to what
stands before it.
-/

set_option autoImplicit false

namespace PxeLaunch

namespace Path

variable {p q : Path}

private theorem startsWith_join_iff (p q : Path) :
    (p.join q).startsWith p = true ↔ (q.isAbsolute = true → q.startsWith p = true) := by
  cases hq : q.isAbsolute with
  | false => simp [startsWith_join p hq]
  | true => simp [join_of_isAbsolute p hq]

private theorem not_startsWith_join (hp : p.bytes ≠ []) (hq : q.isAbsolute = false)
    (hsteps : q.steps ≠ []) : ¬p.startsWith (p.join q) = true := by
  intro hstarts
  have hlength := (startsWith_iff.mp hstarts).length_le
  rw [components_join hp hq, List.length_append] at hlength
  have hpos : 0 < q.steps.length := List.length_pos_iff.mpr hsteps
  omega

private theorem bytes_ne_nil_of_isAbsolute (h : p.isAbsolute = true) : p.bytes ≠ [] := by
  intro hempty
  rw [isAbsolute, hempty] at h
  cases h

end Path

namespace Profile

def imageFolder (p : Profile) (outputRoot : Path) : Path :=
  (outputRoot.joinText p.buildTarget).joinText p.buildMode.name

/-- Whether the target of a profile and the name of an image are taken from the folder before
them. -/
def StaysBelow (p : Profile) (artifact : String) : Prop :=
  (Path.ofString p.buildTarget).isAbsolute = false ∧ (Path.ofString artifact).isAbsolute = false

variable {p : Profile} {artifact : String}

private theorem artifactPath_eq (p : Profile) (root : Path) (artifact : String) :
    p.artifactPath root artifact = (p.imageFolder root).joinText artifact := rfl

private theorem isAbsolute_imageFolder (p : Profile) (root : Path) :
    (p.imageFolder root).isAbsolute =
      (root.isAbsolute || (Path.ofString p.buildTarget).isAbsolute) := by
  rw [imageFolder, Path.joinText, Path.isAbsolute_join, BuildMode.isAbsolute_name, Bool.or_false,
    Path.joinText, Path.isAbsolute_join]

private theorem startsWith_imageFolder (h : (Path.ofString p.buildTarget).isAbsolute = false)
    (root : Path) : (p.imageFolder root).startsWith root = true := by
  have htarget : (root.joinText p.buildTarget).startsWith root = true :=
    Path.startsWith_join root h
  have hmode : (p.imageFolder root).startsWith (root.joinText p.buildTarget) = true :=
    Path.startsWith_join _ p.buildMode.isAbsolute_name
  exact Path.startsWith_trans hmode htarget

private theorem StaysBelow.startsWith (h : p.StaysBelow artifact) (root : Path) :
    (p.artifactPath root artifact).startsWith root = true := by
  have himage : (p.artifactPath root artifact).startsWith (p.imageFolder root) = true :=
    Path.startsWith_join _ h.2
  exact Path.startsWith_trans himage (startsWith_imageFolder h.1 root)

private theorem artifactPath_of_not_staysBelow (h : ¬p.StaysBelow artifact) (root other : Path) :
    p.artifactPath root artifact = p.artifactPath other artifact ∧
      (p.artifactPath root artifact).isAbsolute = true := by
  cases hartifact : (Path.ofString artifact).isAbsolute with
  | true =>
    have hall (root : Path) : p.artifactPath root artifact = .ofString artifact :=
      Path.join_of_isAbsolute _ hartifact
    exact ⟨by rw [hall root, hall other], by rw [hall root, hartifact]⟩
  | false =>
    have htarget : (Path.ofString p.buildTarget).isAbsolute = true := by
      by_contra hrelative
      exact h ⟨by simpa using hrelative, hartifact⟩
    have hall (root : Path) : root.joinText p.buildTarget = .ofString p.buildTarget :=
      Path.join_of_isAbsolute _ htarget
    refine ⟨by rw [artifactPath, artifactPath, hall root, hall other], ?_⟩
    rw [artifactPath_eq, Path.joinText, Path.isAbsolute_join, isAbsolute_imageFolder, htarget,
      Bool.or_true, Bool.true_or]

end Profile

namespace Toolchain

def withOutputRoot (t : Toolchain) (root : Path) : Toolchain := { t with outputRoot := root }

/-- An image is in the folder of its profile exactly if its name is relative or spelled so that it
begins with that folder. Whatever the folder for output is, the image is below it exactly if its
name and the target of the profile are relative. -/
theorem startsWith_artifactPath_iff (t : Toolchain) (p : Profile) :
    ((t.artifactPath p).startsWith (p.imageFolder t.resolvedOutputRoot) = true ↔
      ((Path.ofString t.artifact).isAbsolute = true →
        (Path.ofString t.artifact).startsWith (p.imageFolder t.resolvedOutputRoot) = true)) ∧
    ((∀ root, ((t.withOutputRoot root).artifactPath p).startsWith
        (t.withOutputRoot root).resolvedOutputRoot = true) ↔
      p.StaysBelow t.artifact) := by
  refine ⟨Path.startsWith_join_iff _ _, fun h => ?_, fun h root => h.startsWith _⟩
  by_contra hstays
  -- The only place of the image is taken for a folder, and the output is put below it.
  obtain ⟨-, habsolute⟩ := p.artifactPath_of_not_staysBelow hstays ⟨[]⟩ ⟨[]⟩
  let place := p.artifactPath ⟨[]⟩ t.artifact
  let root := place.joinText "x"
  have habsoluteRoot : root.isAbsolute = true := by
    change (place.join _).isAbsolute = true
    rw [Path.isAbsolute_join, habsolute, Bool.true_or]
  have hroot : (t.withOutputRoot root).resolvedOutputRoot = root :=
    Path.join_of_isAbsolute _ habsoluteRoot
  have himage : (t.withOutputRoot root).artifactPath p = place :=
    (p.artifactPath_of_not_staysBelow hstays _ _).1
  have hstarts := h root
  rw [hroot, himage] at hstarts
  exact Path.not_startsWith_join (Path.bytes_ne_nil_of_isAbsolute habsolute) (by decide) (by decide)
    hstarts

/-- A manifest may name an image from the root, and a valid profile may have a target that starts
there. -/
theorem artifactPath_not_below_outputRoot :
    let project : Project := ⟨.ofString "/proj", (Manifest.ofToml
      "[project]\nname = \"p\"\n\n[toolchain]\nartifact = \"/boot.efi\"\n").toOption⟩
    let t := project.toolchain
    let p := Profile.x86_64
    let q := { Profile.x86_64 with buildTarget := "/x-uefi" }
    project.manifest.isSome = true ∧ p.isValid = true ∧ q.isValid = true ∧
      t.resolvedOutputRoot = .ofString "/proj/target" ∧
      t.artifactPath p = .ofString "/boot.efi" ∧
      (t.artifactPath p).startsWith (p.imageFolder t.resolvedOutputRoot) = false ∧
      (t.artifactPath p).startsWith t.resolvedOutputRoot = false ∧
      (default (.ofString "/proj")).artifactPath q = .ofString "/x-uefi/debug/bootloader.efi" ∧
      ((default (.ofString "/proj")).artifactPath q).startsWith (.ofString "/proj/target") = false := by
  intro project t p q
  have hmanifest : project.manifest.isSome = true := by decide +kernel
  have ht : t = { default (.ofString "/proj") with artifact := "/boot.efi" } := by decide +kernel
  have hp : p.isValid = true := Profile.isValid_builtin .x86_64
  -- The noise, which is slow to compile, is the same, and neither of the targets is an issue.
  have hissues : q.issues = p.issues := by
    have htarget : q.targetIssues = p.targetIssues := by decide +kernel
    rw [Profile.issues, htarget]
    rfl
  have hq : q.isValid = true := by rwa [Profile.isValid, hissues]
  refine ⟨hmanifest, hp, hq, ?_⟩
  rw [ht]
  decide +kernel

end Toolchain

end PxeLaunch

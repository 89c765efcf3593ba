import PxeLaunch.Project.Basic
import PxeLaunch.Proofs.Project.Manifest

/-!
The emulators that a manifest names. They are looked up by the names of the architectures, while the
sections for profiles may use aliases and any case. Main statement: an emulator is used if it stands
under the name of its architecture as that is spelled in lists, and nothing else under the programs
counts.
-/

set_option autoImplicit false

namespace PxeLaunch

private theorem Architecture.ofName?_name (a : Architecture) : ofName? a.name = some a := by
  cases a <;> rfl

namespace Project

/-- Whether a name under the programs of the emulator is not passed over: the project cannot be
used, or the name stands for an architecture for which an emulator under such a name is used. -/
def Heeds (files : Files) (project : Project) (name : String) : Prop :=
  (∃ e, project.registry files = .error e) ∨
    ∃ m a other path, project.manifest = some m ∧ Architecture.ofName? name = some a ∧
      (other, path) ∈ m.programs ∧ Architecture.ofName? other = some a ∧
      project.emulatorProgram a = some path

variable {files : Files} {dir : Path} {m : Manifest} {text : String}

private theorem emulatorProgram_eq_some_iff (h : Manifest.ofToml text = .ok m) {a : Architecture}
    {path : Path} :
    emulatorProgram ⟨dir, some m⟩ a = some path ↔ (a.name, path) ∈ m.programs :=
  lookup_eq_some_iff_mem (Manifest.nodup_of_pairwise (Manifest.pairwise_of_ofToml h).1)

private theorem registry_withPrograms (files : Files) (dir : Path) (m : Manifest)
    (programs : List (String × Path)) :
    registry files ⟨dir, some { m with programs }⟩ = registry files ⟨dir, some m⟩ := rfl

/-- For each architecture the emulator is the one under its name, spelled as in lists. A name under
the programs, whatever it stands for, is heeded if it stands for an architecture whose name is there
in that spelling, and otherwise only if the profiles cannot be loaded, with which the programs have
nothing to do. -/
theorem heeds_iff_of_ofToml (files : Files) (dir : Path) (h : Manifest.ofToml text = .ok m) :
    (∀ a path, emulatorProgram ⟨dir, some m⟩ a = some path ↔ (a.name, path) ∈ m.programs) ∧
    (∀ name, Heeds files ⟨dir, some m⟩ name ↔
      (∃ e, registry files ⟨dir, some m⟩ = .error e) ∨
        ∃ a path, Architecture.ofName? name = some a ∧ (a.name, path) ∈ m.programs) ∧
    ∀ programs, registry files ⟨dir, some { m with programs }⟩ =
      registry files ⟨dir, some m⟩ := by
  refine ⟨fun a path => emulatorProgram_eq_some_iff h, fun name => or_congr_right ?_,
    registry_withPrograms files dir m⟩
  constructor
  · rintro ⟨m', a, other, path, hm, ha, -, -, hprogram⟩
    obtain rfl := Option.some.inj hm
    exact ⟨a, path, ha, (emulatorProgram_eq_some_iff h).mp hprogram⟩
  · rintro ⟨a, path, ha, hmem⟩
    exact ⟨m, a, a.name, path, rfl, ha, hmem, a.ofName?_name,
      (emulatorProgram_eq_some_iff h).mpr hmem⟩

def oneProgram (name : String) : Manifest where
  projectName := "p"
  toolchain := .blank
  programs := [(name, .ofString "/opt/qemu")]
  overrides := []

def oneProgramText (name : String) : String :=
  "[project]\nname = \"p\"\n\n[emulator.programs]\n" ++ name ++ " = \"/opt/qemu\"\n"

theorem heeds_iff_of_ofToml_named :
    Manifest.ofToml (oneProgramText "x86_64") = .ok (oneProgram "x86_64") ∧
      emulatorProgram ⟨.ofString "boot", some (oneProgram "x86_64")⟩ .x86_64 =
        some (.ofString "/opt/qemu") ∧
      Heeds ⟨[], []⟩ ⟨.ofString "boot", some (oneProgram "x86_64")⟩ "x86_64" := by
  have hread : Manifest.ofToml (oneProgramText "x86_64") = .ok (oneProgram "x86_64") := by
    rw [← toOption_eq_some]
    decide +kernel
  obtain ⟨hprogram, hheeds, -⟩ := heeds_iff_of_ofToml ⟨[], []⟩ (.ofString "boot") hread
  have hmem : ("x86_64", .ofString "/opt/qemu") ∈ (oneProgram "x86_64").programs :=
    List.mem_singleton_self _
  exact ⟨hread, (hprogram .x86_64 _).mpr hmem,
    (hheeds _).mpr (.inr ⟨.x86_64, _, Architecture.ofName?_name .x86_64, hmem⟩)⟩

/-- An emulator under an alias is passed over in silence. -/
theorem not_heeds_alias :
    Manifest.ofToml (oneProgramText "amd64") = .ok (oneProgram "amd64") ∧
      Architecture.ofName? "amd64" = some .x86_64 ∧
      ¬Heeds ⟨[], []⟩ ⟨.ofString "boot", some (oneProgram "amd64")⟩ "amd64" := by
  refine ⟨?_, rfl, ?_⟩
  · rw [← toOption_eq_some]
    decide +kernel
  · rintro (⟨e, he⟩ | ⟨m, a, other, path, hm, -, -, -, hprogram⟩)
    · have hloads : (registry ⟨[], []⟩
          ⟨.ofString "boot", some (oneProgram "amd64")⟩).toOption.isSome = true := by
        decide +kernel
      rw [he] at hloads
      cases hloads
    · have hnone : emulatorProgram ⟨.ofString "boot", some (oneProgram "amd64")⟩ a = none := by
        cases a <;> rfl
      cases hnone.symm.trans hprogram

end Project

end PxeLaunch

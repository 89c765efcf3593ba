import PxeLaunch.Proofs.Project.Manifest
import PxeLaunch.Proofs.Toml.Line
import PxeLaunch.Proofs.Toml.Quote

/-!
The manifest that a project starts with. The name of the project is put between quotes as it is.
Main statement: the manifest says what it is meant to say exactly if each character of the name
stands for itself there; with any other name it cannot be used, or the project has another name.
-/

set_option autoImplicit false

namespace PxeLaunch.Manifest

open Toml (Entries Line Statement Table)
open Toml.Text (isBasic)
open Toml.Statement (dropLineEnd readFrom)

def toolchainLines : List Line := [
  .header { text := "toolchain" },
  .assignment { text := "program" } (.string "cargo"),
  .assignment { text := "artifact" } (.string "bootloader.efi"),
  .assignment { text := "output-root" } (.string "target")]

def comments : List String := [
  "",
  "# [emulator.programs]",
  "# x86_64 = \"/opt/qemu/bin/qemu-system-x86_64\"",
  "",
  "# [profiles.x86_64]",
  "# firmware = \"firmware/OVMF.fd\"",
  "# acceleration = \"none\""]

def charsOf (lines : List String) : List Char := lines.flatMap fun line => line.toList ++ ['\n']

def afterName : List Char := toolchainLines.flatMap Line.chars ++ charsOf comments

/-- What a manifest to start from is meant to say. -/
def fresh (name : String) : Manifest where
  projectName := name
  toolchain := { ToolchainConfig.blank with
    program := some (.ofString "cargo")
    artifact := some "bootloader.efi"
    outputRoot := some (.ofString "target") }
  programs := []
  overrides := []

def freshTable (name : String) : Table := [
  ("project", .table [("name", .string name)]),
  ("toolchain", .table [
    ("program", .string "cargo"),
    ("artifact", .string "bootloader.efi"),
    ("output-root", .string "target")])]

variable {name : String} {m : Manifest}

private theorem toList_ofList (lines : List String) :
    (Lines.ofList lines).toList = charsOf lines := by
  rw [Lines.ofList, String.toList_join, List.flatMap_map]
  simp [charsOf]

private theorem toList_template (name : String) :
    (template name).toList = "[project]\n".toList ++
      ("name = \"".toList ++ name.toList ++ ['"', '\n'] ++ afterName) := by
  rw [template, toList_ofList, charsOf, List.flatMap_cons, List.flatMap_cons]
  refine congrArg₂ (· ++ ·) (by decide +kernel) (congrArg₂ (· ++ ·) ?_ (by decide +kernel))
  simp

/-- The manifest says what is read between the quotes, and then what is read after them. -/
private theorem exists_read?_template (name : String) :
    ∃ fuel, Statement.read? (template name).toList =
      (Toml.Text.read? ('"' :: (name.toList ++ '"' :: '\n' :: afterName))).bind fun (s, after) =>
        (dropLineEnd false after).bind fun next =>
          readFrom [.assignment ["name"] (.string (String.ofList s)), .header ["project"]]
            (fuel + 5) next := by
  have hname : "name = \"".toList ++ name.toList ++ ['"', '\n'] ++ afterName =
      "name".toList ++ ' ' :: '=' :: ' ' :: '"' :: (name.toList ++ '"' :: '\n' :: afterName) := by
    simp
  obtain ⟨fuel, hfuel⟩ : ∃ fuel, (template name).toList.length + 1 = fuel + 5 + 1 + 1 := by
    rw [toList_template]
    exact ⟨_, by simp; rfl⟩
  refine ⟨fuel, ?_⟩
  have hread : Statement.read? (template name).toList =
      readFrom [] ((template name).toList.length + 1) (template name).toList := by
    rw [toList_template]
    exact Statement.read?_cons (by decide) _
  rw [hread, hfuel, ← Statement.readFrom_newline, toList_template, hname]
  refine (Statement.readFrom_line [] _ (.header { text := "project" }) _).trans ?_
  refine (Statement.readFrom_key _ _ { text := "name" } (by simp; decide)).trans ?_
  rw [Statement.value, Option.bind_map]
  rfl

/-! ### What stands between the quotes -/

private theorem readFrom_afterName (found : List Statement) (fuel : Nat) :
    readFrom found (fuel + 5) afterName =
      some (found.reverse ++ toolchainLines.map Line.statement) := by
  have hcomments : Statement.dropTrivia false (charsOf comments) = some [] := by decide +kernel
  have hread := Statement.readFrom_lines_append toolchainLines found (fuel + 1) (charsOf comments)
  rw [afterName]
  refine hread.trans ?_
  rw [readFrom, hcomments]
  simp

theorem ofToml_template_of_read? {cs : List Char}
    (h : Toml.Text.read? ('"' :: (name.toList ++ '"' :: '\n' :: afterName)) =
      some (cs, '\n' :: afterName)) :
    ofToml (template name) = .ok (fresh (String.ofList cs)) := by
  obtain ⟨fuel, hfuel⟩ := exists_read?_template name
  have hread : Statement.read? (template name).toList =
      some ([.header ["project"], .assignment ["name"] (.string (String.ofList cs))] ++
        toolchainLines.map Line.statement) := by
    have hend : dropLineEnd false ('\n' :: afterName) = some afterName := rfl
    rw [hfuel, h, Option.bind_some]
    simp only [hend, Option.bind_some, readFrom_afterName]
    rfl
  have hparse : Toml.Document.parse? (template name) = some (freshTable (String.ofList cs)) :=
    Toml.Document.parse?_eq_some.mpr ⟨_, _, hread, rfl, rfl⟩
  have hdraft : shape.readTable shape.blank (freshTable (String.ofList cs)) =
      .ok ⟨some (String.ofList cs), (fresh (String.ofList cs)).toolchain, [], []⟩ := rfl
  refine Toml.decode_eq_ok.mpr ⟨_, hparse, bind_eq_ok.mpr ⟨_, hdraft, ?_⟩⟩
  refine congrArg Except.ok (congrArg₂ (Manifest.mk _ (fresh (String.ofList cs)).toolchain) ?_ ?_)
  · exact sorted_nil
  · exact sorted_nil

private theorem ofToml_template (h : ∀ c ∈ name.toList, isBasic c = true) :
    ofToml (template name) = .ok (fresh name) := by
  have hread := ofToml_template_of_read? (Toml.Text.read?_quote_of_isBasic h (by simp))
  rwa [String.ofList_toList] at hread

theorem ofToml_template_of_dropLineEnd {cs after : List Char}
    (h : Toml.Text.read? ('"' :: (name.toList ++ '"' :: '\n' :: afterName)) = some (cs, after))
    (hend : dropLineEnd false after = none) : ofToml (template name) = .error .malformed := by
  obtain ⟨fuel, hfuel⟩ := exists_read?_template name
  rw [h, Option.bind_some] at hfuel
  have hparse : Toml.Document.parse? (template name) = none := by
    rw [Toml.Document.parse?, hfuel]
    simp [hend]
  rw [ofToml, Toml.decode, hparse]

/-! ### Other names -/

private theorem exists_read?_of_ofToml_template (h : ofToml (template name) = .ok m) :
    ∃ after, Toml.Text.read? ('"' :: (name.toList ++ '"' :: '\n' :: afterName)) =
      some (m.projectName.toList, after) := by
  obtain ⟨table, htable, -⟩ := Toml.decode_eq_ok.mp h
  obtain ⟨statements, stop, hread, hrun, rfl⟩ := Toml.Document.parse?_eq_some.mp htable
  obtain ⟨fuel, hfuel⟩ := exists_read?_template name
  rw [hfuel] at hread
  obtain ⟨⟨s, after⟩, hquote, hread⟩ := Option.bind_eq_some_iff.mp hread
  obtain ⟨next, -, hread⟩ := Option.bind_eq_some_iff.mp hread
  obtain ⟨more, rfl, -⟩ := Statement.exists_readFrom_eq hread
  have hrest : Toml.Document.run
      ⟨[("project", .table .header [("name", .value (.string (String.ofList s)))])], ["project"]⟩
      more = some stop := hrun
  -- Whatever statements follow the first two, what these have assigned stays.
  have hgrows : Entries.Grows (fun _ => True) _ stop.entries :=
    Toml.Document.grows_run (fun _ _ _ => trivial) hrest
  have hholds : stop.entries.Holds ["project", "name"] (.string (String.ofList s)) :=
    hgrows.holds (.inside rfl (.here rfl))
  obtain ⟨inner, hproject, hname⟩ := hholds.exists_mem_toTable
  refine ⟨after, ?_⟩
  rw [projectName_eq htable hproject hname h, String.toList_ofList]
  exact hquote

theorem projectName_eq_iff_of_ofToml_template (h : ofToml (template name) = .ok m) :
    m.projectName = name ↔ ∀ c ∈ name.toList, isBasic c = true := by
  constructor
  · intro hname
    obtain ⟨after, hquote⟩ := exists_read?_of_ofToml_template h
    rw [hname] at hquote
    exact (Toml.Text.exists_read?_quote_iff rfl (by decide +kernel)).mp ⟨after, hquote⟩
  · intro hbasic
    rw [ofToml_template hbasic] at h
    exact Except.ok.inj h ▸ rfl

theorem ofToml_template_eq_fresh_iff :
    ofToml (template name) = .ok (fresh name) ↔ ∀ c ∈ name.toList, isBasic c = true :=
  ⟨fun h => (projectName_eq_iff_of_ofToml_template h).mp rfl, ofToml_template⟩

end PxeLaunch.Manifest

import PxeLaunch.Toml.Statement

/-!
Whole documents. The statements are carried out one after another on the table of the document.
-/

set_option autoImplicit false

namespace PxeLaunch.Toml

namespace Document

/-- The table of the document so far, and the path of the last header. -/
structure State where
  entries : Entries
  path : List String

/-- The last part of a path and the parts before it. -/
def splitLast (path : List String) : List String × String := (path.dropLast, path.getLastD "")

/-- Carries out a statement. -/
def step (s : State) : Statement → Option State
  | .header path =>
    let (parents, key) := splitLast path
    (s.entries.descend (Entries.openTable key) parents).map fun entries => ⟨entries, path⟩
  | .arrayHeader path =>
    let (parents, key) := splitLast path
    (s.entries.descend (Entries.openItem key) parents).map fun entries => ⟨entries, path⟩
  | .assignment key v =>
    (s.entries.descend (fun es => es.assign key v) s.path).map fun entries => { s with entries }

/-- Carries out statements in order. -/
def run (s : State) : List Statement → Option State
  | [] => some s
  | statement :: rest => (step s statement).bind fun next => run next rest

/-- The table that a document describes, if it is well formed and no key is defined twice. -/
def parse? (text : String) : Option Table := do
  let statements ← Statement.read? text.toList
  let stop ← run ⟨[], []⟩ statements
  return stop.entries.toTable

end Document

end PxeLaunch.Toml

import PxeLaunch.Script.Process
import PxeLaunch.Script.Utility.Condition

/-!
Programs: which of them a name means, and which program of the system is run in the end. A file that
names an interpreter is an argument of that one.
-/

set_option autoImplicit false

namespace PxeLaunch.Script

/-- A program of the system with its arguments, and the name that it goes by. -/
structure Task where
  program : String
  shownName : Chars
  args : List Chars

/-- Runs a program as a process of its own and waits for it. -/
abbrev Spawn := List Chars → Shell → Except Failure (Shell × ExitStatus)

/-- The interpreter that a file names, and what comes with it. -/
def interpreter? (content : Bytes) : Option (Chars × List Chars) :=
  match content.take 2 with
  | [0x23, 0x21] =>
    let line := Chars.ofBytes ((content.drop 2).takeWhile (· != Bytes.newline))
    let line := line.dropWhile isBlank
    let program := line.takeWhile (!isBlank ·)
    let option := (line.drop program.length).dropWhile isBlank
    let option := (option.reverse.dropWhile isBlank).reverse
    if program.isEmpty then none else some (program, if option.isEmpty then [] else [option])
  | _ => none

/-- The task that running the program under a path comes to. Interpreters may have interpreters, up
to some depth. -/
def resolve (files : Files) : (depth : Nat) → (path : Chars) → (args : List Chars) →
    Except Failure Task
  | 0, _, _ => .error .notExecutable
  | depth + 1, path, args =>
    match files.get (Shell.pathOf path) with
    | .ok .folder => .error .denied
    | .ok (.file _ ⟨false, _⟩) => .error .denied
    | .ok (.file _ ⟨true, some cause⟩) => .error cause
    | .ok (.file content ⟨true, none⟩) =>
      match interpreter? content with
      | none => .error .notExecutable
      | some (name, options) => resolve files depth name (options ++ path :: args)
    | .error e =>
      match systemName? programNames path with
      | some name => .ok ⟨String.ofList name, path, args⟩
      | none => .error e

/-- How deep interpreters may stand in one another. -/
def interpreterDepth : Nat := 5

/-- The task that running a program comes to. -/
def taskOf (files : Files) (path : Chars) (args : List Chars) : Except Failure Task :=
  resolve files interpreterDepth path args

/-- Where programs are looked for. -/
def Shell.searchPath (s : Shell) : List Chars :=
  ((s.value? "PATH".toList).getD "/bin:/usr/bin".toList).splitOn ':'

/-- The path of the program that a name means. A name with a slash is a path. -/
def Shell.locate? (s : Shell) (name : Chars) : Option Chars :=
  if name.contains '/' then some name
  else
    let paths := s.searchPath.map fun folder =>
      if folder.isEmpty then name else folder ++ '/' :: name
    paths.find? fun path => match s.find? path with
      | some (.file _ _) => true
      | _ => false

end PxeLaunch.Script

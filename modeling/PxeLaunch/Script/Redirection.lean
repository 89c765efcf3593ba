import PxeLaunch.Script.Expansion
import PxeLaunch.Script.Utility.Input

/-!
Redirections. The targets are expanded first, except for texts; then descriptors are led to them one
after another, up to the first target that cannot be opened. After the command, the descriptors lead
where they did before.
-/

set_option autoImplicit false

namespace PxeLaunch.Script

/-- A redirection with its target, or with the text in place of one. -/
structure Target where
  descriptor : Nat
  direction : Direction
  name : Chars
  text : Word

/-- Whether a text says which descriptor is meant, or that there is to be none. -/
def isDescriptor (cs : Chars) : Bool :=
  match cs with
  | [c] => c.isDigit || c = '-'
  | _ => false

/-- Expands the targets of redirections. -/
def targetsOf (collect : Collector) : List Redirect → Shell → Shell × List Target
  | [], s => (s, [])
  | .mk descriptor direction w :: rest, s =>
    let (s, name) := if direction = .text then (s, []) else expandText collect false s w
    if !s.goesOn then (s, [])
    else if direction = .duplicate && !isDescriptor name then
      ({ s with line := s.lineRead }.fail "Syntax error: Bad fd number".toList, [])
    else
      let (s, targets) := targetsOf collect rest s
      (s, ⟨descriptor, direction, name, w⟩ :: targets)

/-- What is said of a file that cannot be opened. -/
def refusalToOpen (creates : Bool) (path : Chars) (e : Failure) : Chars :=
  let missing := if creates then "Directory nonexistent" else "No such file"
  let reason := if e = .notFound || e = .notDirectory then missing.toList else Shell.reason e
  (if creates then "cannot create " else "cannot open ").toList ++ path ++ ": ".toList ++ reason

/-- Leads a descriptor to a file that is there. -/
def leadToFile (descriptor : Nat) (path : Chars) (appends : Bool) (s : Shell) :
    Except Failure Shell := do
  let key ← s.files.locate (Shell.pathOf path)
  let _ ← s.files.get (Shell.pathOf path)
  return s.connect descriptor (.file key 0 appends)

/-- Leads a descriptor to a file, to read it. -/
def leadToInput (descriptor : Nat) (path : Chars) (s : Shell) : Except Failure Shell := do
  match ← s.files.get (Shell.pathOf path) with
  | .file _ ⟨_, some cause⟩ => .error cause
  | _ => leadToFile descriptor path false s

/-- Leads a descriptor to a file, which is made if it is not there. -/
def leadToOutput (descriptor : Nat) (path : Chars) (direction : Direction) (s : Shell) :
    Except Failure Shell := do
  let p := Shell.pathOf path
  let old := (s.files.read p).toOption
  if direction = .output && s.has 'C' && old.isSome then throw .alreadyThere
  let keeps := direction = .appended || direction = .both
  let files ← s.files.write p (if keeps then old.getD [] else [])
  leadToFile descriptor path (direction = .appended) { s with files := files }

/-- Follows a redirection. An error in a text is one of the redirection. -/
def follow (collect : Collector) (t : Target) (s : Shell) : Except Shell Shell :=
  let answer (creates : Bool) (result : Except Failure Shell) : Except Shell Shell :=
    result.mapError fun e => s.complainHere (refusalToOpen creates t.name e) 2
  match t.direction, device? t.name with
  | .text, _ =>
    let (s, text) := expandText collect false s t.text
    if s.jump = .failed then .error { s with jump := .onward }
    else .ok (s.connect t.descriptor (.feed [(s.clock, text.toBytes)] s.clock))
  | .duplicate, _ =>
    if t.name = ['-'] then .ok (s.close t.descriptor)
    else match s.place? (natOf 10 t.name) with
      | some place => .ok (s.lead t.descriptor place)
      | none => .error (s.complainHere (t.name ++ ": Bad file descriptor".toList) 2)
  | _, some (.descriptor n) =>
    match s.place? n with
    | some place => .ok (s.lead t.descriptor place)
    | none => answer false (.error .notFound)
  | _, some _ => .ok (s.connect t.descriptor .nowhere)
  | .input, none => answer false (leadToInput t.descriptor t.name s)
  | direction, none => answer true (leadToOutput t.descriptor t.name direction s)

/-- Follows redirections, and says whether that went well. -/
def followAll (collect : Collector) (targets : List Target) (s : Shell) : Shell × Bool :=
  match targets.foldlM (fun s t => follow collect t s) s with
  | .ok s => (s, true)
  | .error s => (s, false)

/-- Leads descriptors where they led in another state. -/
def restored (targets : List Target) (old s : Shell) : Shell :=
  targets.foldl (fun s t =>
    match old.place? t.descriptor with
    | some place => s.lead t.descriptor place
    | none => s.close t.descriptor) s

end PxeLaunch.Script

import PxeLaunch.Script.Format
import PxeLaunch.Script.Pattern
import PxeLaunch.Script.Program
import PxeLaunch.Script.Regular

/-!
A utility that goes through trees of files and does something to those for which conditions hold.
Conditions are joined as they are elsewhere: the one that stands first is tried first, and others
only if they matter.
-/

set_option autoImplicit false

namespace PxeLaunch.Script.Finder

/-- What can be asked of a file, or done to it. -/
inductive Test where
  | constant (truth : Bool)
  | name (p : Pattern) (lower : Bool)
  | path (p : Pattern) (lower : Bool)
  | matching (search : Regular.Search)
  | kinds (letters : Chars)
  | isEmpty
  | isExecutable
  | size (sign : Option Char) (n unit : Nat)
  | show (ending : Char)
  | format (text : Chars)
  | delete
  | prune
  | quit
  | run (words : List Chars)
  | runOnce (words : List Chars)

/-- Whether a test does something, so that nothing need be shown. -/
def Test.isAction : Test → Bool
  | .show _ => true
  | .format _ => true
  | .delete => true
  | .quit => true
  | .run _ => true
  | .runOnce _ => true
  | _ => false

/-- Conditions joined with one another. -/
inductive Condition where
  | test (t : Test)
  | not (c : Condition)
  | both (a b : Condition)
  | either (a b : Condition)
  | last (a b : Condition)

def Condition.acts : Condition → Bool
  | .test t => t.isAction
  | .not c => c.acts
  | .both a b => a.acts || b.acts
  | .either a b => a.acts || b.acts
  | .last a b => a.acts || b.acts

/-- How far the search goes, and in which order. -/
structure Scope where
  least : Nat
  most : Nat
  depthFirst : Bool

/-! ### Reading -/

/-- Words that are being read, and what they say of the scope. -/
structure Reading where
  rest : List Chars
  scope : Scope

abbrev Read (α : Type) := StateT Reading (Except Chars) α

def refuse {α : Type} (text : Chars) : Read α := fun _ => .error text

/-- The value of a test. -/
def value (name : Chars) : Read Chars := do
  let r ← get
  match r.rest with
  | word :: rest =>
    set { r with rest := rest }
    return word
  | [] =>
    refuse ("missing argument to ".toList ++ Char.ofNat 0x60 :: name ++ ['\''])

def pattern (lower : Bool) (cs : Chars) : Pattern :=
  let cs := if lower then cs.map Char.toLower else cs
  .ofMarked (cs.map fun c => (c, false))

/-- The words of a command, up to the sign that ends it, and whether it is run only once. -/
def commandWords (name : Chars) (found : List Chars) : List Chars → Option (Test × List Chars)
  | [';'] :: rest => if found.isEmpty then none else some (.run found.reverse, rest)
  | ['+'] :: rest =>
    match found with
    | ['{', '}'] :: words => if words.isEmpty then none else some (.runOnce words.reverse, rest)
    | _ => commandWords name (['+'] :: found) rest
  | word :: rest => commandWords name (word :: found) rest
  | [] => none

/-- A number of units with a sign. -/
def sizeTest? (cs : Chars) : Option Test :=
  let (sign, digits) := match cs with
    | '+' :: rest => (some '+', rest)
    | '-' :: rest => (some '-', rest)
    | _ => (none, cs)
  let number := digits.takeWhile Char.isDigit
  let unit := match digits.drop number.length with
    | ['c'] => 1
    | ['w'] => 2
    | ['k'] => 1024
    | ['M'] => 1024 * 1024
    | ['G'] => 1024 * 1024 * 1024
    | _ => 512
  if number.isEmpty then none else some (.size sign (natOf 10 number) unit)

/-- Changes the scope, which is no condition. -/
def changeScope (f : Scope → Scope) : Read Test := do
  modify fun r => { r with scope := f r.scope }
  return .constant true

/-- The depth that a word gives. -/
def depth (name : Chars) : Read Nat := do
  let word ← value name
  if word.all Char.isDigit && !word.isEmpty then return natOf 10 word
  else refuse ("Expected a positive decimal integer argument to ".toList ++ name ++
    ", but got ".toList ++ quotedName word)

def readTest (word : Chars) : Read Test := do
  match String.ofList (word.drop 1) with
  | "name" => return .name (pattern false (← value word)) false
  | "iname" => return .name (pattern true (← value word)) true
  | "path" => return .path (pattern false (← value word)) false
  | "wholename" => return .path (pattern false (← value word)) false
  | "ipath" => return .path (pattern true (← value word)) true
  | "regex" =>
    match Regular.Search.ofText ⟨false, .edgesAndControls, false, false⟩ (← value word) with
    | .ok search => return .matching search
    | .error _ => refuse "failed to compile regular expression".toList
  | "type" =>
    let letters := (← value word).filter (· != ',')
    match letters.find? fun c => !"bcdpflsD".toList.contains c with
    | some c => refuse ("Unknown argument to -type: ".toList ++ [c])
    | none => return .kinds letters
  | "empty" => return .isEmpty
  | "executable" => return .isExecutable
  | "readable" => return .constant true
  | "writable" => return .constant true
  | "true" => return .constant true
  | "false" => return .constant false
  | "newer" =>
    let _ ← value word
    return .constant false
  | "mtime" =>
    let _ ← value word
    return .constant true
  | "perm" =>
    let _ ← value word
    return .constant true
  | "user" =>
    let _ ← value word
    return .constant true
  | "size" =>
    let text ← value word
    match sizeTest? text with
    | some t => return t
    | none => refuse ("Invalid argument ".toList ++ Char.ofNat 0x60 :: text ++ "' to -size".toList)
  | "print" => return .show '\n'
  | "print0" => return .show (Char.ofNat 0)
  | "printf" => return .format (← value word)
  | "delete" =>
    let _ ← changeScope fun s => { s with depthFirst := true }
    return .delete
  | "prune" => return .prune
  | "quit" => return .quit
  | "depth" => changeScope fun s => { s with depthFirst := true }
  | "maxdepth" =>
    let n ← depth word
    changeScope fun s => { s with most := n }
  | "mindepth" =>
    let n ← depth word
    changeScope fun s => { s with least := n }
  | "xdev" => return .constant true
  | "mount" => return .constant true
  | "follow" => return .constant true
  | "exec" => command
  | "execdir" => command
  | _ => refuse ("unknown predicate ".toList ++ Char.ofNat 0x60 :: word ++ ['\''])
where
  command : Read Test := do
    let r ← get
    match commandWords word [] r.rest with
    | some (t, rest) =>
      set { r with rest := rest }
      return t
    | none => refuse ("missing argument to ".toList ++ Char.ofNat 0x60 :: word ++ ['\''])

/-- Reads conditions that are tried only if all before them hold. -/
def readBoth (inner : Read Condition) (first : Condition) : (fuel : Nat) → Read Condition
  | 0 => return first
  | fuel + 1 => do
    let r ← get
    match r.rest with
    | [] => return first
    | word :: rest =>
      match String.ofList word with
      | "-o" => return first
      | "-or" => return first
      | "," => return first
      | ")" => return first
      | "-a" =>
        set { r with rest := rest }
        readBoth inner (.both first (← inner)) fuel
      | "-and" =>
        set { r with rest := rest }
        readBoth inner (.both first (← inner)) fuel
      | _ => readBoth inner (.both first (← inner)) fuel

/-- Reads conditions of which one has to hold. -/
def readEither (inner : Read Condition) (first : Condition) : (fuel : Nat) → Read Condition
  | 0 => return first
  | fuel + 1 => do
    let r ← get
    let next : Read Condition := do
      let a ← inner
      readBoth inner a r.rest.length
    match r.rest with
    | ['-', 'o'] :: rest =>
      set { r with rest := rest }
      readEither inner (.either first (← next)) fuel
    | ['-', 'o', 'r'] :: rest =>
      set { r with rest := rest }
      readEither inner (.either first (← next)) fuel
    | [','] :: rest =>
      set { r with rest := rest }
      readEither inner (.last first (← next)) fuel
    | _ => return first

/-- Reads a condition, in which others may stand. -/
def readOne : (fuel : Nat) → Read Condition
  | 0 => refuse "invalid expression".toList
  | fuel + 1 => do
    let r ← get
    match r.rest with
    | [] => refuse "expected an expression".toList
    | word :: rest =>
      set { r with rest := rest }
      if word = ['!'] || word = "-not".toList then return .not (← readOne fuel)
      else if word = ['('] then
        let steps := rest.length + 1
        let a ← readOne fuel
        let a ← readBoth (readOne fuel) a steps
        let a ← readEither (readOne fuel) a steps
        let r ← get
        match r.rest with
        | [')'] :: rest =>
          set { r with rest := rest }
          return a
        | _ =>
          refuse ("invalid expression; I was expecting to find a ')' somewhere ".toList ++
            "but did not see one.".toList)
      else if word.head? = some '-' then return .test (← readTest word)
      else refuse ("paths must precede expression: ".toList ++ Char.ofNat 0x60 :: word ++ ['\''])

def readAll : Read (Option Condition) := do
  let r ← get
  if r.rest.isEmpty then return none
  let steps := r.rest.length + 1
  let a ← readOne steps
  let a ← readBoth (readOne steps) a steps
  return some (← readEither (readOne steps) a steps)

/-! ### Searching -/

/-- The state of a search: commands that wait for more paths, and whether it goes on. -/
structure State where
  shell : Shell
  waiting : List (List Chars × List Chars)
  pruned : Bool
  stopped : Bool

/-- Runs a command, whose success is the answer. -/
def State.run (spawn : Spawn) (words : List Chars) (st : State) : Bool × State :=
  match spawn words st.shell with
  | .ok (s, status) => (status = .exited 0, { st with shell := s.answer st.shell.status })
  | .error e =>
    let name := words.headD []
    let s := st.shell.complain ("find: ".toList ++ quotedName name ++ ": ".toList ++
      Shell.reason e) st.shell.status
    (false, { st with shell := s })

/-- A text with a path in the place of each pair of braces. -/
def withPath (path : Chars) : Chars → Chars
  | '{' :: '}' :: rest => path ++ withPath path rest
  | c :: rest => c :: withPath path rest
  | [] => []

/-- What a format shows of a path. -/
def formatted (start path : Chars) (depth : Nat) (e : Entry) : (fuel : Nat) → Chars → Chars
  | 0, _ => []
  | _, [] => []
  | fuel + 1, '%' :: c :: rest =>
    let below := (path.drop start.length).dropWhile (· = '/')
    let folder := (path.reverse.dropWhile (· != '/')).reverse
    let text := match c with
      | 'p' => path
      | 'f' => (path.reverse.takeWhile (· != '/')).reverse
      | 'h' => if folder.isEmpty then ['.'] else folder.dropLast
      | 'P' => below
      | 'd' => natText depth
      | 's' => natText (match e with
        | .folder => 4096
        | .file content _ => content.length)
      | 'y' => if e == .folder then ['d'] else ['f']
      | 'm' => (match e with
        | .file _ ⟨false, _⟩ => "644"
        | _ => "755").toList
      | 'u' => "root".toList
      | 'g' => "root".toList
      | '%' => ['%']
      | _ => ['%', c]
    text ++ formatted start path depth e fuel rest
  | fuel + 1, '\\' :: rest =>
    let (shown, after) := escape false rest
    shown ++ formatted start path depth e fuel after
  | fuel + 1, c :: rest => c :: formatted start path depth e fuel rest

/-- Removes a file, or a folder in which nothing is left. -/
def State.delete (path : Chars) (e : Entry) (st : State) : Bool × State :=
  match st.shell.files.locate (Shell.pathOf path) with
  | .error _ => (false, st)
  | .ok key =>
    let files := st.shell.files
    if e == .folder && !(files.names key).isEmpty then
      let s := st.shell.complain ("find: cannot delete ".toList ++ quotedName path ++
        ": Directory not empty".toList) 1
      (false, { st with shell := s })
    else
      let left := files.entries.filter fun (k, _) => k != key
      (true, { st with shell := { st.shell with files := { files with entries := left } } })

/-- The answer to a test. -/
def Test.answer (spawn : Spawn) (start path : Chars) (depth : Nat) (e : Entry) (st : State) :
    Test → Bool × State
  | .constant truth => (truth, st)
  | .name p lower =>
    let bare := (path.reverse.dropWhile (· = '/')).reverse
    let name := if bare.isEmpty then ['/'] else (bare.reverse.takeWhile (· != '/')).reverse
    (p.fits (if lower then name.map Char.toLower else name), st)
  | .path p lower => (p.fits (if lower then path.map Char.toLower else path), st)
  | .matching search =>
    let subject := search.subject path
    ((search.at? subject (fun m => m.stop = path.length) 0).isSome, st)
  | .kinds letters => (letters.contains (if e == .folder then 'd' else 'f'), st)
  | .isEmpty =>
    match e with
    | .file content _ => (content.isEmpty, st)
    | .folder =>
      let key := (st.shell.files.locate (Shell.pathOf path)).toOption
      ((key.map fun key => (st.shell.files.names key).isEmpty).getD false, st)
  | .isExecutable =>
    match e with
    | .file _ access => (access.executable, st)
    | .folder => (true, st)
  | .size sign n unit =>
    let size := match e with
      | .folder => 4096
      | .file content _ => content.length
    let units := (size + unit - 1) / unit
    (match sign with
      | some '+' => n < units
      | some _ => units < n
      | none => units = n, st)
  | .show ending => (true, { st with shell := st.shell.put (path ++ [ending]) })
  | .format text =>
    (true, { st with shell := st.shell.put (formatted start path depth e (text.length + 1) text) })
  | .delete => st.delete path e
  | .prune => (true, { st with pruned := true })
  | .quit => (true, { st with stopped := true })
  | .run words => st.run spawn (words.map (withPath path))
  | .runOnce words =>
    let others := st.waiting.filter (·.1 != words)
    let paths := (st.waiting.lookup words).getD []
    (true, { st with waiting := others ++ [(words, paths ++ [path])] })

def Condition.answer (spawn : Spawn) (start path : Chars) (depth : Nat) (e : Entry) :
    Condition → State → Bool × State
  | .test t, st => if st.stopped then (false, st) else t.answer spawn start path depth e st
  | .not c, st =>
    let (truth, st) := c.answer spawn start path depth e st
    (!truth, st)
  | .both a b, st =>
    let (truth, st) := a.answer spawn start path depth e st
    if truth then b.answer spawn start path depth e st else (false, st)
  | .either a b, st =>
    let (truth, st) := a.answer spawn start path depth e st
    if truth then (true, st) else b.answer spawn start path depth e st
  | .last a b, st =>
    let (_, st) := a.answer spawn start path depth e st
    b.answer spawn start path depth e st

/-- Goes through what is below a path, in the order of names. -/
def visit (spawn : Spawn) (c : Condition) (scope : Scope) (start : Chars) :
    (fuel : Nat) → (depth : Nat) → Chars → State → State
  | 0, _, _, st => st
  | fuel + 1, depth, path, st =>
    if st.stopped then st
    else match st.shell.files.get (Shell.pathOf path) with
      | .error _ => st
      | .ok e =>
        let test (st : State) : State :=
          if depth < scope.least then st else (c.answer spawn start path depth e st).2
        let below (st : State) : State :=
          if e != .folder || scope.most ≤ depth then st
          else
            let names := ((st.shell.files.list (Shell.pathOf path)).toOption.getD []).map
              Chars.ofBytes
            let names := names.mergeSort fun a b => !Bytes.before b.toBytes a.toBytes
            let lead := if path.getLast? = some '/' then path else path ++ ['/']
            names.foldl (fun st name =>
              visit spawn c scope start fuel (depth + 1) (lead ++ name) st) st
        if scope.depthFirst then test (below st)
        else
          let st := test { st with pruned := false }
          if st.pruned then { st with pruned := false } else below st

/-- Runs the commands that wait, each with all its paths. -/
def State.finish (spawn : Spawn) (st : State) : State :=
  st.waiting.foldl (fun st (words, paths) =>
    let (good, st) := st.run spawn (words ++ paths)
    if good then st else { st with shell := st.shell.answer 1 }) st

/-- Finds files and does something to them. -/
def findFiles (spawn : Spawn) : Utility := fun args s =>
  let args := args.dropWhile fun a => [['-', 'L'], ['-', 'P'], ['-', 'H']].contains a
  let paths := args.takeWhile fun a => a != ['!'] && a != ['('] && a.head? != some '-'
  let words := args.drop paths.length
  match readAll ⟨words, ⟨0, 1000000, false⟩⟩ with
  | .error text => blame "find" text 1 s
  | .ok (c?, r) =>
    match r.rest with
    | word :: _ =>
      if word = [')'] then
        blame "find" "invalid expression; you have too many ')'".toList 1 s
      else blame "find" "invalid expression".toList 1 s
    | [] =>
      let print : Condition := .test (.show '\n')
      let c := match c? with
        | none => print
        | some c => if c.acts then c else .both c print
      let paths := if paths.isEmpty then [['.']] else paths
      let st := paths.foldl (fun (st : State) path =>
        match st.shell.files.get (Shell.pathOf path) with
        | .ok _ => visit spawn c r.scope path 256 0 path st
        | .error e =>
          let text := quotedName path ++ ": ".toList ++ Shell.reason e
          { st with shell := blame "find" text 1 st.shell }) ⟨s.answer 0, [], false, false⟩
      (st.finish spawn).shell

end PxeLaunch.Script.Finder

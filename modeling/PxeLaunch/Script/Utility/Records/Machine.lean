import PxeLaunch.Script.Program
import PxeLaunch.Script.Regular
import PxeLaunch.Script.Utility.Records.Table
import PxeLaunch.Script.Utility.Records.Token

/-!
The state of a program over records: its variables, the record with its fields, and the texts that
are read and written.
-/

set_option autoImplicit false

namespace PxeLaunch.Script.Records

/-- What a name stands for: a value, and a table once it is used as one. -/
structure Slot where
  value : Value
  table : Option Nat

def Slot.unset : Slot := ⟨.unset, none⟩

/-- A text that is read: a file or what a command shows, what is left of it, and how the command
ended. -/
structure Opened where
  source : Source
  name : Chars
  rest : Chars
  status : ExitStatus

/-- A text that is written: to a file or a command, and what is not written yet, the last first. -/
structure Written where
  target : Target
  name : Chars
  waiting : List Chars

/-- The state of a program. What has been shown but is not written yet stands last first. -/
structure Machine where
  shell : Shell
  functions : List (Chars × Function)
  shown : List Chars
  globals : Std.HashMap Chars Slot
  locals : Option (List (Chars × Slot))
  tables : Array Table
  record : Chars
  separator : Chars
  fields : Option (Array Value)
  searches : Std.HashMap Chars Regular.Search
  argument : Nat
  hasInput : Bool
  input : Option Chars
  opened : List Opened
  written : List Written
  spans : List Nat
  seed : Float

/-- What leaves the statements around it. -/
inductive Jump where
  | breaks
  | continues
  | nextRecord
  | nextFile
  | returns (v : Value)
  | exits (status : Option Value)
  | failed (text : Chars)

abbrev Act (α : Type) := ExceptT Jump (StateM Machine) α

/-! ### Variables -/

def Machine.slot (m : Machine) (name : Chars) : Slot :=
  match m.locals.bind fun frame => frame.lookup name with
  | some slot => slot
  | none => (m.globals.get? name).getD .unset

def Machine.putSlot (m : Machine) (name : Chars) (slot : Slot) : Machine :=
  match m.locals with
  | some frame =>
    if frame.any (·.1 = name) then
      { m with locals := some (frame.map fun (n, old) => if n = name then (n, slot) else (n, old)) }
    else { m with globals := m.globals.insert name slot }
  | none => { m with globals := m.globals.insert name slot }

/-- The text of a variable of the program itself, which is no local one. -/
def Machine.setting (m : Machine) (name : String) : Chars :=
  match ((m.globals.get? name.toList).getD .unset).value with
  | .text cs => cs
  | v => v.toText "%.6g".toList

def Machine.set (m : Machine) (name : String) (v : Value) : Machine :=
  { m with globals := m.globals.insert name.toList ⟨v, none⟩ }

/-- The number of a variable of the program itself. -/
def Machine.count (m : Machine) (name : String) : Float :=
  ((m.globals.get? name.toList).getD .unset).value.toNumber

def toText (v : Value) : Act Chars := do
  match v with
  | .number x =>
    match wholeText? x with
    | some text => return text
    | none => return numberText ((← get).setting "CONVFMT") x
  | v => return v.toText []

/-- A complaint about something that went wrong on the way. -/
def failure {α : Type} (text : Chars) : Act α := do
  let m ← get
  throw (.failed ("run time error: ".toList ++ text ++ "\n\tFILENAME=\"".toList ++
    m.setting "FILENAME" ++ "\" FNR=".toList ++ numberText [] (m.count "FNR") ++ " NR=".toList ++
    numberText [] (m.count "NR")))

/-- The number of the table that a name stands for, which is made if there is none. -/
def tableOf (name : Chars) : Act Nat := do
  let m ← get
  let slot := m.slot name
  match slot.table with
  | some place => return place
  | none =>
    let place := m.tables.size
    set ({ m with tables := m.tables.push .empty }.putSlot name { slot with table := some place })
    return place

def tableAt (place : Nat) : Act Table := do return ((← get).tables[place]?).getD .empty

/-- Changes the table at a place. -/
def reviseTable {α : Type} (place : Nat) (f : Table → α × Table) : Act α := do
  let m ← get
  let t := (m.tables[place]?).getD .empty
  let m := { m with tables := m.tables.setIfInBounds place .empty }
  let (a, t) := f t
  set { m with tables := m.tables.setIfInBounds place t }
  return a

/-! ### Regular expressions -/

/-- What is said of a regular expression that cannot be read. -/
def flawText (cs : Chars) (flaw : Regular.Flaw) : Chars :=
  let reason := match flaw with
    | .openGroup => "missing ')'"
    | .nothingBefore => "missing operand"
    | _ => "bad class -- [], [^] or ["
  "regular expression compile failed (".toList ++ reason.toList ++ ")\n".toList ++ cs

/-- The search for a regular expression. -/
def searchFor (cs : Chars) : Act Regular.Search := do
  match (← get).searches.get? cs with
  | some search => return search
  | none =>
    match Regular.Search.ofText ⟨true, .controls, false, true⟩ cs with
    | .ok search =>
      modify fun m => { m with searches := m.searches.insert cs search }
      return search
    | .error flaw => failure (flawText cs flaw)

/-! ### Fields -/

/-- Characters between which words stand. -/
def isGap (c : Char) : Bool := c = ' ' || c = '\t' || c = '\n'

/-- The words of a text. -/
def wordsOf (word : Chars) : Chars → List Chars
  | [] => if word.isEmpty then [] else [word.reverse]
  | c :: rest =>
    if isGap c then
      if word.isEmpty then wordsOf [] rest else word.reverse :: wordsOf [] rest
    else wordsOf (c :: word) rest

/-- The parts of a text between matches. -/
def partsBetween (cs : Chars) (start : Nat) : List Regular.Match → List Chars
  | [] => [cs]
  | m :: rest => cs.take (m.start - start) :: partsBetween (cs.drop (m.stop - start)) m.stop rest

/-- The parts of a text between separators: words, characters, or what stands between matches. -/
def partsOf (separator cs : Chars) : Act (List Chars) := do
  if cs.isEmpty then return []
  else match separator with
    | [' '] => return wordsOf [] cs
    | [] => return cs.map fun c => [c]
    | [c] => return cs.splitOn c
    | _ =>
      let search ← searchFor separator
      return partsBetween cs 0 (search.all (search.subject cs) fun m => m.start < m.stop)

/-- The fields of the record. -/
def fieldsNow : Act (Array Value) := do
  let m ← get
  match m.fields with
  | some fields => return fields
  | none =>
    let fields := ((← partsOf m.separator m.record).map Value.input).toArray
    modify fun m => { m with fields := some fields }
    return fields

/-- Makes a text the record. -/
def setRecord (cs : Chars) : Act PUnit :=
  modify fun m => { m with record := cs, separator := m.setting "FS", fields := none }

/-- Gives the record other fields. -/
def setFields (fields : Array Value) : Act PUnit := do
  let texts ← fields.toList.mapM toText
  modify fun m =>
    { m with fields := some fields, record := (m.setting "OFS").intercalate texts }

/-- The number of a field. -/
def fieldNumber (x : Float) : Act Nat := do
  match whole? x with
  | some n =>
    if n < 0 then failure ("negative field index $".toList ++ intText n) else return n.toNat
  | none => failure "field index is no number".toList

def fieldAt (i : Nat) : Act Value := do
  if i = 0 then return .input (← get).record
  else return ((← fieldsNow)[i - 1]?).getD .unset

def setField (i : Nat) (v : Value) : Act PUnit := do
  if i = 0 then setRecord (← toText v)
  else
    let fields ← fieldsNow
    let fields := fields ++ Array.replicate (i - fields.size) (.text [])
    setFields (fields.setIfInBounds (i - 1) v)

def readVariable (name : Chars) : Act Value := do
  if name = ['N', 'F'] then return .ofNat (← fieldsNow).size
  else return ((← get).slot name).value

def setVariable (name : Chars) (v : Value) : Act PUnit := do
  if name = ['N', 'F'] then
    let fields ← fieldsNow
    match whole? v.toNumber with
    | some n =>
      if n < 0 then failure "negative value assigned to NF".toList
      else
        let n := n.toNat
        setFields (fields.extract 0 n ++ Array.replicate (n - fields.size) (.text []))
    | none => failure "value assigned to NF is no number".toList
  else modify fun m => m.putSlot name { m.slot name with value := v }

/-! ### Output -/

def say (cs : Chars) : Act PUnit := modify fun m => { m with shown := cs :: m.shown }

/-- Texts that stand last first, as one. -/
def assembled (parts : List Chars) : Chars := parts.reverse.flatten

/-- Writes what files have been given. -/
def Machine.filed (m : Machine) : Machine :=
  let (s, written) := m.written.foldl (fun (s, written) w =>
    match w.target with
    | .command => (s, w :: written)
    | _ =>
      let s := if w.waiting.isEmpty then s else
        match s.readFile w.name with
        | .ok (old, s) =>
          match s.writeFile w.name (old ++ assembled w.waiting) with
          | .ok s => s
          | .error _ => s
        | .error _ => s
      (s, { w with waiting := [] } :: written)) (m.shell, [])
  { m with shell := s, written := written.reverse }

/-- Writes all that has been shown. -/
def Machine.flushed (m : Machine) : Machine :=
  { m with shell := m.shell.put (assembled m.shown), shown := [] }.filed

def flush : Act PUnit := modify Machine.flushed

/-- Complains about a file that cannot be opened for something. -/
def cannotOpen {α : Type} (name purpose : Chars) (e : Failure) : Act α :=
  throw (.failed ("cannot open \"".toList ++ name ++ "\"".toList ++ purpose ++ " (".toList ++
    Shell.reason e ++ [')']))

/-- Shows a text in a file or to a command, which is opened first if it is not open. -/
def sayTo (target : Target) (name cs : Chars) : Act PUnit := do
  let isSame (w : Written) : Bool :=
    w.name = name && (w.target = .command) = (target = .command)
  if target != .command && (name = ['-'] || name = "/dev/stdout".toList) then say cs
  else if target != .command && name = "/dev/stderr".toList then
    modify fun m => { m with shell := m.shell.write 2 cs }
  else
    let m ← get
    if m.written.any isSame then
      set { m with
        written := m.written.map fun w =>
          if isSame w then { w with waiting := cs :: w.waiting } else w }
    else
      let m : Machine ← match target with
        | .command => pure m.flushed
        | _ =>
          let old := match target with
            | .fileEnd => ((m.shell.readFile name).toOption.map (·.1)).getD []
            | _ => []
          match m.shell.writeFile name old with
          | .ok s => pure { m with shell := s }
          | .error e => cannotOpen name " for output".toList e
      set { m with written := m.written ++ [Written.mk target name [cs]] }

/-! ### Commands -/

/-- Runs a command. -/
def runCommand (spawn : Spawn) (cs : Chars) (prepare : Shell → Shell) : Act ExitStatus := do
  let m ← get
  let s := m.shell
  match spawn ["/bin/sh".toList, ['-', 'c'], cs] (prepare s) with
  | .ok (t, status) =>
    set { m with shell := { t with descriptors := s.descriptors } }
    return status
  | .error _ => return .exited 127

/-- Gives a command all that it was shown, and runs it. -/
def runWritten (spawn : Spawn) (w : Written) : Act ExitStatus := do
  runCommand spawn w.name fun s =>
    s.connect 0 (.feed [(s.clock, (assembled w.waiting).toBytes)] s.clock)

/-- How a command ended, as a number. -/
def statusNumber : ExitStatus → Nat
  | .exited code => code
  | .killed n => 256 + n

/-- Closes what goes by a name. -/
def closeAll (spawn : Spawn) (name : Chars) : Act Value := do
  let m ← get
  let reading := m.opened.filter (·.name = name)
  let writing := m.written.filter (·.name = name)
  let commands := writing.filter (·.target = .command)
  if reading.isEmpty && writing.isEmpty then return .number (-1.0)
  else
    modify fun m => { m.filed with
      opened := m.opened.filter (·.name != name)
      written := m.written.filter (·.name != name) }
    let statuses ← commands.mapM (runWritten spawn)
    let ends := statuses.map statusNumber ++ reading.map fun o => statusNumber o.status
    return .ofNat (ends.headD 0)

/-- Runs the commands that are still open. -/
def closeRest (spawn : Spawn) : Act PUnit := do
  let commands := (← get).written.filter (·.target = .command)
  modify fun m => { m with written := m.written.filter (·.target != .command) }
  for w in commands do
    let _ ← runWritten spawn w

end PxeLaunch.Script.Records

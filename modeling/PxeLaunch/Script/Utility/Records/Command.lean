import PxeLaunch.Script.Utility.Records.Evaluation
import PxeLaunch.Script.Utility.Records.Reader

/-!
The command that runs programs over records.
-/

set_option autoImplicit false

namespace PxeLaunch.Script.Records

/-! ### Rules -/

/-- Whether a rule with a number applies to the record. A span goes on until its last record. -/
def applies (work : Worker) (number : Nat) (p : Pattern) : Act Bool := do
  match p with
  | .start => return false
  | .finish => return false
  | .always => return true
  | .one condition => return (← work.value condition).isTrue
  | .span first last =>
    let isOpen ← if (← get).spans.contains number then pure true
      else pure (← work.value first).isTrue
    if isOpen then
      let ends := (← work.value last).isTrue
      modify fun m =>
        let others := m.spans.filter (· != number)
        { m with spans := if ends then others else number :: others }
    return isOpen

/-- Applies rules to the record. -/
def applyRules (work : Worker) (rules : List (Nat × Rule)) : Act PUnit :=
  rules.forM fun (number, rule) => do
    if ← applies work number rule.pattern then
      match rule.action with
      | some action => work.perform action
      | none => work.perform (.print [] none)

/-- Applies rules to all records that are left. -/
def applyToAll (work : Worker) (rules : List (Nat × Rule)) : (fuel : Nat) → Act PUnit
  | 0 => pure ()
  | fuel + 1 => do
    match ← nextRecord? mostInputs with
    | none => pure ()
    | some record =>
      setRecord record
      tryCatch (applyRules work rules) fun
        | .nextRecord => pure ()
        | .nextFile => modify fun m => { m with input := none }
        | jump => throw jump
      applyToAll work rules fuel

/-- The most records that are read. -/
def mostRecords : Nat := 10000000

/-- Whether a rule is for records. -/
def Rule.isForRecords (r : Rule) : Bool :=
  match r.pattern with
  | .start => false
  | .finish => false
  | _ => true

def Rule.isFirst (r : Rule) : Bool :=
  match r.pattern with
  | .start => true
  | _ => false

def Rule.isLast (r : Rule) : Bool :=
  match r.pattern with
  | .finish => true
  | _ => false

/-- Does something, and tells with which status the program is to end if it is to end there. -/
def untilExit (status : Nat) (body : Act PUnit) : Act (Nat × Bool) :=
  tryCatch (do
    body
    return (status, false)) fun
    | .exits none => return (status, true)
    | .exits (some v) => return ((signedWhole v.toNumber % 256).toNat, true)
    | jump => throw jump

/-- Runs a program: what comes first, the records, and what comes last. -/
def runProgram (spawn : Spawn) (p : Program) : Act Nat := do
  let work := workerTo spawn workDepth
  let perform (rules : List Rule) : Act PUnit := rules.forM fun rule => do
    match rule.action with
    | some action => work.perform action
    | none => pure ()
  let (status, ends) ← untilExit 0 (perform (p.rules.filter (·.isFirst)))
  let forRecords := (p.rules.zipIdx.map fun (rule, i) => (i, rule)).filter (·.2.isForRecords)
  let last := p.rules.filter (·.isLast)
  let status ← if ends || forRecords.isEmpty && last.isEmpty then pure status
    else pure (← untilExit status (applyToAll work forRecords mostRecords)).1
  let (status, _) ← untilExit status (perform last)
  closeRest spawn
  flush
  return status

/-! ### Options -/

/-- What the command is told: the files that hold the program, the separator of fields, what is
assigned, and what follows. -/
structure Order where
  programs : List Chars
  separator : Option Chars
  assigned : List (Chars × Chars)
  rest : List Chars

/-- Reads the options in front of the other arguments. -/
def readOptions (o : Order) : (fuel : Nat) → Except Chars Order
  | 0 => .ok o
  | fuel + 1 =>
    let valued (letter : Char) (value rest : Chars) (others : List Chars)
        (f : Chars → List Chars → Except Chars Order) : Except Chars Order :=
      match value, others with
      | _ :: _, _ => f (value ++ rest) others
      | [], v :: others => f v others
      | [], [] => .error ("option -".toList ++ letter :: " lacks argument".toList)
    match o.rest with
    | ['-', '-'] :: rest => .ok { o with rest := rest }
    | ('-' :: 'f' :: value) :: rest =>
      valued 'f' value [] rest fun v rest =>
        readOptions { o with programs := o.programs ++ [v], rest := rest } fuel
    | ('-' :: 'F' :: value) :: rest =>
      valued 'F' value [] rest fun v rest =>
        readOptions { o with separator := some v, rest := rest } fuel
    | ('-' :: 'v' :: value) :: rest =>
      valued 'v' value [] rest fun v rest =>
        match assignment? v with
        | some a => readOptions { o with assigned := o.assigned ++ [a], rest := rest } fuel
        | none => .error ("improper assignment: -v ".toList ++ v)
    | ('-' :: 'W' :: value) :: rest =>
      valued 'W' value [] rest fun _ rest => readOptions { o with rest := rest } fuel
    | ('-' :: c :: cs) :: _ => .error ("not an option: -".toList ++ c :: cs)
    | _ => .ok o

/-- The first values of variables. -/
def firstGlobals : Std.HashMap Chars Slot :=
  let text (cs : String) : Value := .text cs.toList
  Std.HashMap.ofList ([("FS", text " "), ("OFS", text " "), ("ORS", text "\n"), ("RS", text "\n"),
    ("SUBSEP", text "\x1c"), ("CONVFMT", text "%.6g"), ("OFMT", text "%.6g"),
    ("NR", .number 0.0), ("FNR", .number 0.0), ("RSTART", .number 0.0),
    ("RLENGTH", .number (-1.0)), ("FILENAME", text "")].map fun (name, v) =>
      (name.toList, Slot.mk v none))

/-- A table of texts by texts. -/
def tableOfTexts (entries : List (Chars × Chars)) : Table :=
  entries.foldl (fun t (key, value) => t.put none key (.input value)) .empty

/-- The state before a program runs. -/
def Machine.start (p : Program) (args : List Chars) (s : Shell) : Machine :=
  let known := s.bindings.reverse.filterMap fun (name, v) =>
    if v.isExported then v.value.map fun value => (name, value) else none
  let args := "awk".toList :: args
  let arguments := args.zipIdx.foldl (fun (t : Table) (arg, i) =>
    t.put (some i) (natText i) (.input arg)) .empty
  let globals := ((firstGlobals.insert "ENVIRON".toList ⟨.unset, some 0⟩).insert
    "ARGV".toList ⟨.unset, some 1⟩).insert "ARGC".toList ⟨.ofNat args.length, none⟩
  { shell := s, functions := p.functions, shown := [], globals := globals, locals := none
    tables := #[tableOfTexts known, arguments], record := [], separator := [' ']
    fields := some #[], searches := {}, argument := 1, hasInput := false, input := none
    opened := [], written := [], spans := [], seed := 0.0 }

def complain (text : Chars) (s : Shell) : Shell := blame "awk" text 2 s

/-- The texts of files, one after another. -/
def programText (paths : List Chars) (s : Shell) : Except Chars (Chars × Shell) :=
  paths.foldlM (fun (text, s) path =>
    if path = ['-'] then
      let (more, s) := s.readStdin
      .ok (text ++ more, s)
    else match s.readFile path with
      | .ok (more, s) => .ok (text ++ more, s)
      | .error e =>
        .error ("cannot open \"".toList ++ path ++ "\" (".toList ++ Shell.reason e ++ [')']))
    ([], s)

/-- Does what an order says with a program. -/
def follow (spawn : Spawn) (o : Order) (text : Chars) (args : List Chars) (s : Shell) : Shell :=
  match Program.ofText text with
  | .error remark => complain remark s
  | .ok p =>
    let m := Machine.start p args s
    let body : Act Nat := do
      match o.separator with
      | some cs => setVariable "FS".toList (.text (textOfEscapes (cs.length + 1) cs))
      | none => pure ()
      o.assigned.forM fun (name, value) => assignArgument name value
      runProgram spawn p
    let (result, m) := body.run.run m
    match result with
    | .ok status => m.shell.answer status
    | .error (.failed remark) => (complain remark m.shell |> fun s =>
        { m with shell := s }.flushed.shell).answer 2
    | .error _ => m.flushed.shell.answer 2

/-- Runs a program over records. -/
def workOnRecords (spawn : Spawn) : Utility := fun args s =>
  match readOptions ⟨[], none, [], args⟩ (args.length + 1) with
  | .error remark => complain remark s
  | .ok o =>
    match o.programs, o.rest with
    | [], [] => s.complain "Usage: awk [Options] [Program] [file ...]".toList 2
    | [], text :: args => follow spawn o text args s
    | paths, args =>
      match programText paths s with
      | .ok (text, s) => follow spawn o text args s
      | .error remark => complain remark s

end PxeLaunch.Script.Records

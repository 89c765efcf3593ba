import PxeLaunch.Script.Utility.Records.Input

/-!
The values of expressions, and what statements do.
-/

set_option autoImplicit false

namespace PxeLaunch.Script.Records

/-- How what stands inside of an expression or a statement is worked on. -/
structure Worker where
  value : Expr → Act Value
  perform : Statement → Act PUnit

/-! ### Places -/

/-- A place that can be given a value. -/
inductive Place where
  | name (name : Chars)
  | field (index : Nat)
  | element (table : Nat) (number? : Option Int) (key : Chars)

/-- The whole number that a value is as a key. -/
def keyNumber? : Value → Option Int
  | .number x =>
    match whole? x with
    | some n => if ofInt n == x && minWord ≤ n && n ≤ maxWord then some n else none
    | none => none
  | _ => none

/-- The key that values make up. -/
def keyOf (work : Worker) (index : List Expr) : Act (Option Int × Chars) := do
  match index with
  | [e] =>
    let v ← work.value e
    return (keyNumber? v, ← toText v)
  | es =>
    let texts ← es.mapM fun e => do toText (← work.value e)
    return (none, ((← get).setting "SUBSEP").intercalate texts)

def placeOf (work : Worker) : Expr → Act Place
  | .name n => return .name n
  | .field e => do return .field (← fieldNumber (← work.value e).toNumber)
  | .element n index => do
    let table ← tableOf n
    let (number?, key) ← keyOf work index
    return .element table number? key
  | _ => failure "assignment to something that is no variable".toList

def Place.get : Place → Act Value
  | .name n => readVariable n
  | .field i => fieldAt i
  | .element table number? key =>
    reviseTable table fun t =>
      match t.get? key with
      | some v => (v, t.touched number? key)
      | none => (.unset, t.put number? key .unset)

def Place.put (p : Place) (v : Value) : Act PUnit :=
  match p with
  | .name n => setVariable n v
  | .field i => setField i v
  | .element table number? key => reviseTable table fun t => ((), t.put number? key v)

/-! ### Operators -/

/-- What is left of a division whose result is whole. -/
def remainder (a b : Float) : Float :=
  if b.isInf && !a.isNaN && !a.isInf then a
  else match exact a, exact b with
    | .finite negative m e, .finite _ k f =>
      if k = 0 then notANumber
      else
        let lowest := min e f
        let n := m * Nat.pow 2 (e - lowest).toNat % (k * Nat.pow 2 (f - lowest).toNat)
        signedNumber negative (ofExact (.finite false n lowest))
    | _, _ => notANumber

def Operation.apply (op : Operation) (a b : Float) : Float :=
  match op with
  | .plus => a + b
  | .minus => a - b
  | .times => a * b
  | .over => a / b
  | .modulo => remainder a b
  | .power => Float.pow a b

def Comparison.holds (c : Comparison) (order : Ordering) : Bool :=
  match c with
  | .less => order == .lt
  | .atMost => order != .gt
  | .equal => order == .eq
  | .unequal => order != .eq
  | .greater => order == .gt
  | .atLeast => order != .lt

/-- The order of two texts. -/
def orderOf : Chars → Chars → Ordering
  | [], [] => .eq
  | [], _ :: _ => .lt
  | _ :: _, [] => .gt
  | a :: as, b :: bs => if a < b then .lt else if b < a then .gt else orderOf as bs

/-- Compares values: as numbers if both are some, as texts otherwise. -/
def compareValues (c : Comparison) (a b : Value) : Act Bool := do
  match a.comparedNumber?, b.comparedNumber? with
  | some x, some y =>
    match c with
    | .less => return x < y
    | .atMost => return x ≤ y
    | .equal => return x == y
    | .unequal => return x != y
    | .greater => return y < x
    | .atLeast => return y ≤ x
  | _, _ => return c.holds (orderOf (← toText a) (← toText b))

/-- The search for what an expression stands for as a regular expression. -/
def searchOf (work : Worker) (e : Expr) : Act Regular.Search := do
  match e with
  | .regex cs => searchFor cs
  | e => searchFor (← toText (← work.value e))

/-! ### Functions -/

/-- A text that stands in the place of a match, in which an ampersand stands for the match unless a
backslash protects it. -/
def replacementFor (taken : Chars) : (fuel : Nat) → Chars → Chars
  | 0, _ => []
  | _, [] => []
  | fuel + 1, cs =>
    match cs with
    | '\\' :: '\\' :: '&' :: rest => '\\' :: taken ++ replacementFor taken fuel rest
    | '\\' :: '&' :: rest => '&' :: replacementFor taken fuel rest
    | '&' :: rest => taken ++ replacementFor taken fuel rest
    | c :: rest => c :: replacementFor taken fuel rest
    | [] => []

/-- A text with others in the places of matches. -/
def withReplaced (replacement : Chars) (start : Nat) (cs : Chars) : List Regular.Match → Chars
  | [] => cs
  | m :: rest =>
    let front := cs.take (m.start - start)
    let taken := (cs.drop (m.start - start)).take (m.stop - m.start)
    front ++ replacementFor taken (replacement.length + 1) replacement ++
      withReplaced replacement m.stop (cs.drop (m.stop - start)) rest

/-- Replaces matches in a place, and counts them. -/
def replaceIn (work : Worker) (all : Bool) (pattern replacement place : Expr) : Act Value := do
  let search ← searchOf work pattern
  let text ← toText (← work.value replacement)
  let p? ← if place.isPlace then pure (some (← placeOf work place)) else pure none
  let cs ← match p? with
    | some p => toText (← p.get)
    | none => toText (← work.value place)
  let subject := search.subject cs
  let found := if all then search.all subject fun _ => true
    else (search.find? subject 0).toList
  if found.isEmpty then return .number 0.0
  else
    let changed := withReplaced text 0 cs found
    match p? with
    | some p => p.put (.text changed)
    | none => pure ()
    return .ofNat found.length

/-- A part of a text, from a position on. -/
def partOf (cs : Chars) (start : Float) (length? : Option Float) : Chars :=
  let bound (x : Float) : Int := (whole? x).getD (if x.isNaN || x < 0.0 then 0 else maxWord)
  let first := bound start
  match length? with
  | none => cs.drop (first - 1).toNat
  | some length =>
    let stop := first + bound length
    let first := max first 1
    (cs.drop (first - 1).toNat).take (stop - first).toNat

/-- The position of a text in another, counted from one, or zero if it is not in it. -/
def positionOf (part : Chars) (place : Nat) : Chars → Nat
  | [] => if part.isEmpty then place else 0
  | c :: rest =>
    if part.isPrefixOf (c :: rest) then place else positionOf part (place + 1) rest

/-- What a format shows of values. -/
def formatAll (name : String) (values : List Value) : Act Chars := do
  match values with
  | [] => return []
  | format :: args =>
    let format ← toText format
    let setting := (← get).setting "CONVFMT"
    match formattedValues (Value.toText setting) format args with
    | (text, none) => return text
    | (text, some flaw) =>
      if name = "printf" then say text
      let call := name.toList ++ "(\"".toList ++ format ++ "\")".toList
      match flaw with
      | .noArgument => failure ("not enough arguments passed to ".toList ++ call)
      | .badConversion n =>
        failure ("improper conversion(number ".toList ++ natText n ++ ") in ".toList ++ call)

/-- Splits a text into the elements of a table. -/
def splitInto (table : Nat) (cs separator : Chars) : Act Value := do
  let parts ← partsOf separator cs
  reviseTable table fun _ => ((), .ofRow (parts.map .input))
  return .ofNat parts.length

/-- The table that an expression names. -/
def tableNamed : Expr → Act Nat
  | .name n => tableOf n
  | _ => failure "a table is expected".toList

/-- The value of a function that every program has. -/
def callBuiltin (spawn : Spawn) (work : Worker) (b : Builtin) (args : List Expr) : Act Value := do
  let number (e : Expr) : Act Float := do return (← work.value e).toNumber
  let text (e : Expr) : Act Chars := do toText (← work.value e)
  let numeric (f : Float → Float) (e : Expr) : Act Value := do return .number (f (← number e))
  match b, args with
  | .length, [] => return .ofNat (← get).record.length
  | .length, [.name n] =>
    match ((← get).slot n).table with
    | some place => return .ofNat (← tableAt place).size
    | none => return .ofNat (← text (.name n)).length
  | .length, e :: _ => return .ofNat (← text e).length
  | .part, [e, start] => return .text (partOf (← text e) (← number start) none)
  | .part, e :: start :: length :: _ =>
    return .text (partOf (← text e) (← number start) (some (← number length)))
  | .index, [e, part] =>
    let cs ← text e
    let part ← text part
    return .ofNat (if part.isEmpty && cs.isEmpty then 0 else positionOf part 1 cs)
  | .split, [e, table] =>
    let cs ← text e
    splitInto (← tableNamed table) cs ((← get).setting "FS")
  | .split, e :: table :: separator :: _ =>
    let cs ← text e
    let separator ← match separator with
      | .regex [' '] => pure "[ ]".toList
      | .regex cs => pure cs
      | e => text e
    splitInto (← tableNamed table) cs separator
  | .replaceOne, [pattern, text] => replaceIn work false pattern text (.field (.number 0.0))
  | .replaceOne, pattern :: text :: place :: _ => replaceIn work false pattern text place
  | .replaceAll, [pattern, text] => replaceIn work true pattern text (.field (.number 0.0))
  | .replaceAll, pattern :: text :: place :: _ => replaceIn work true pattern text place
  | .find, [e, pattern] =>
    let cs ← text e
    let search ← searchOf work pattern
    let (start, length) : Float × Float := match search.find? (search.subject cs) 0 with
      | some m => (Float.ofNat (m.start + 1), Float.ofNat (m.stop - m.start))
      | none => (0.0, -1.0)
    modify fun m => (m.set "RSTART" (.number start)).set "RLENGTH" (.number length)
    return .number start
  | .format, es => return .text (← formatAll "sprintf" (← es.mapM work.value))
  | .lower, [e] => return .text ((← text e).map Char.toLower)
  | .upper, [e] => return .text ((← text e).map Char.toUpper)
  | .integer, [e] =>
    let x ← number e
    return .number (match whole? x with
      | some n => if n = 0 then 0.0 else ofInt n
      | none => x)
  | .root, [e] => numeric Float.sqrt e
  | .exponential, [e] => numeric Float.exp e
  | .logarithm, [e] => numeric Float.log e
  | .sine, [e] => numeric Float.sin e
  | .cosine, [e] => numeric Float.cos e
  | .angle, [y, x] =>
    let y ← number y
    return .number (Float.atan2 y (← number x))
  | .random, _ => return .number 0.5
  | .seed, es =>
    let old := (← get).seed
    let new ← match es with
      | e :: _ => number e
      | [] => pure 0.0
    modify fun m => { m with seed := new }
    return .number old
  | .system, [e] =>
    let command ← text e
    flush
    return .ofNat (statusNumber (← runCommand spawn command id))
  | .close, [e] => closeAll spawn (← text e)
  | .flush, _ =>
    flush
    return .number 0.0
  | _, _ => failure "wrong number of arguments".toList

/-- Calls a function with its arguments. Names are passed on with their tables. -/
def callFunction (work : Worker) (name : Chars) (args : List Expr) : Act Value := do
  match (← get).functions.lookup name with
  | none => failure ("function ".toList ++ name ++ " never defined".toList)
  | some f =>
    let slots ← args.mapM fun e => do
      match e with
      | .name n =>
        let place ← tableOf n
        return (⟨← readVariable n, some place⟩ : Slot)
      | e => return ⟨← work.value e, none⟩
    let frame := f.parameters.zip
      (slots ++ List.replicate (f.parameters.length - slots.length) .unset)
    let outer := (← get).locals
    modify fun m => { m with locals := some frame }
    let v ← tryCatch (do
        work.perform f.body
        return Value.unset) fun
      | .returns v => return v
      | jump => throw jump
    modify fun m => { m with locals := outer }
    return v

/-! ### Reading lines -/

/-- Reads a line into a place or into the record; the value tells whether there was one. -/
def readLineInto (spawn : Spawn) (work : Worker) (source : Source) (origin place : Option Expr) :
    Act Value := do
  let name ← match origin with
    | some e => toText (← work.value e)
    | none => pure []
  let found? ← match source with
    | .input => pure (some (← nextRecord? mostInputs))
    | _ => recordFrom? spawn source name
  match found? with
  | none => return .number (-1.0)
  | some none => return .number 0.0
  | some (some record) =>
    match place with
    | some e => (← placeOf work e).put (.input record)
    | none => setRecord record
    return .number 1.0

/-! ### Expressions -/

/-- The value of an expression. -/
def evaluate (spawn : Spawn) (work : Worker) (e : Expr) : Act Value := do
  match e with
  | .number x => return .number x
  | .text cs => return .text cs
  | .regex cs => return .ofBool ((← searchFor cs).holds (← get).record)
  | .name n => readVariable n
  | .field _ => (← placeOf work e).get
  | .element _ _ => (← placeOf work e).get
  | .assign place value =>
    let p ← placeOf work place
    let v ← work.value value
    p.put v
    return v
  | .update op place value =>
    let p ← placeOf work place
    let b ← work.value value
    let v := Value.number (op.apply (← p.get).toNumber b.toNumber)
    p.put v
    return v
  | .step up before place =>
    let p ← placeOf work place
    let old := (← p.get).toNumber
    let new := if up then old + 1.0 else old - 1.0
    p.put (.number new)
    return .number (if before then new else old)
  | .arithmetic op a b =>
    let x ← work.value a
    let y ← work.value b
    return .number (op.apply x.toNumber y.toNumber)
  | .positive a => return .number (← work.value a).toNumber
  | .negative a => return .number (-(← work.value a).toNumber)
  | .not a => return .ofBool !(← work.value a).isTrue
  | .compare c a b =>
    let x ← work.value a
    let y ← work.value b
    return .ofBool (← compareValues c x y)
  | .join a b =>
    let x ← toText (← work.value a)
    let y ← toText (← work.value b)
    return .text (x ++ y)
  | .fits wanted a pattern =>
    let cs ← toText (← work.value a)
    return .ofBool ((← searchOf work pattern).holds cs == wanted)
  | .both a b =>
    if (← work.value a).isTrue then return .ofBool (← work.value b).isTrue
    else return .ofBool false
  | .either a b =>
    if (← work.value a).isTrue then return .ofBool true
    else return .ofBool (← work.value b).isTrue
  | .choice condition a b =>
    if (← work.value condition).isTrue then work.value a else work.value b
  | .isIn index n =>
    let (number?, key) ← keyOf work index
    reviseTable (← tableOf n) fun t =>
      if t.contains key then (.ofBool true, t.touched number? key)
      else (.ofBool false, if number?.isSome || t.size = 0 then t else t.withTexts)
  | .call name args => callFunction work name args
  | .builtin b args => callBuiltin spawn work b args
  | .readLine source origin place => readLineInto spawn work source origin place
  | .several es =>
    let (_, key) ← keyOf work es
    return .text key

/-! ### Statements -/

/-- What a statement prints to. -/
def emit (work : Worker) (target : Option (Target × Expr)) (cs : Chars) : Act PUnit := do
  match target with
  | none => say cs
  | some (target, e) => sayTo target (← toText (← work.value e)) cs

/-- A value as it is printed. -/
def printedText (v : Value) : Act Chars := do
  match v with
  | .number x =>
    match wholeText? x with
    | some text => return text
    | none => return numberText ((← get).setting "OFMT") x
  | v => return v.toText []

/-- The most rounds of a loop. -/
def mostRounds : Nat := 1000000

/-- Does the body of a loop, and says whether the loop goes on. -/
def round (body : Act PUnit) : Act Bool :=
  tryCatch (do
    body
    return true) fun
    | .breaks => return false
    | .continues => return true
    | jump => throw jump

/-- Does something as long as a condition holds. -/
def repeatWhile (condition : Act Bool) (body : Act PUnit) : (fuel : Nat) → Act PUnit
  | 0 => throw (.failed "too many rounds".toList)
  | fuel + 1 => do
    if ← condition then
      if ← round body then repeatWhile condition body fuel

/-- Does something for each of some keys. -/
def repeatFor (name : Chars) (body : Act PUnit) : List Chars → Act PUnit
  | [] => pure ()
  | key :: rest => do
    setVariable name (.input key)
    if ← round body then repeatFor name body rest

/-- Does what a statement says. -/
def execute (work : Worker) (t : Statement) : Act PUnit := do
  let holds (e : Expr) : Act Bool := do return (← work.value e).isTrue
  match t with
  | .expression e => do
    let _ ← work.value e
  | .print es target =>
    let texts ← if es.isEmpty then pure [(← get).record]
      else es.mapM fun e => do printedText (← work.value e)
    let m ← get
    emit work target ((m.setting "OFS").intercalate texts ++ m.setting "ORS")
  | .format es target => emit work target (← formatAll "printf" (← es.mapM work.value))
  | .choice condition a b =>
    if ← holds condition then work.perform a
    else match b with
      | some b => work.perform b
      | none => pure ()
  | .loop condition step body =>
    let asked : Act Bool := match condition with
      | some e => holds e
      | none => return true
    let isOn ← asked
    if isOn then
      if ← round (work.perform body) then
        repeatWhile (do
          match step with
          | some t => work.perform t
          | none => pure ()
          asked) (work.perform body) mostRounds
  | .loopAfter body condition =>
    if ← round (work.perform body) then
      repeatWhile (holds condition) (work.perform body) mostRounds
  | .each name table body =>
    let keys ← reviseTable (← tableOf table) Table.keys
    repeatFor name (work.perform body) keys
  | .block body => body.forM work.perform
  | .delete table index =>
    let place ← tableOf table
    if index.isEmpty then reviseTable place fun _ => ((), .empty)
    else
      let (number?, key) ← keyOf work index
      reviseTable place fun t => ((), t.erase number? key)
  | .next => throw .nextRecord
  | .nextFile => throw .nextFile
  | .exit status =>
    match status with
    | some e => throw (.exits (some (← work.value e)))
    | none => throw (.exits none)
  | .return value =>
    match value with
    | some e => throw (.returns (← work.value e))
    | none => throw (.returns .unset)
  | .break => throw .breaks
  | .continue => throw .continues

/-- A worker that goes down to some depth. -/
def workerTo (spawn : Spawn) : (depth : Nat) → Worker
  | 0 => ⟨fun _ => throw (.failed "function call nesting too deep".toList),
      fun _ => throw (.failed "function call nesting too deep".toList)⟩
  | depth + 1 =>
    let work := workerTo spawn depth
    ⟨evaluate spawn work, execute work⟩

/-- How deep calls and what stands in them may be. -/
def workDepth : Nat := 4000

end PxeLaunch.Script.Records

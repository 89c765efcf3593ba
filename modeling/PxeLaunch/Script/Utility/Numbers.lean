import PxeLaunch.Script.Format
import PxeLaunch.Script.Regular
import PxeLaunch.Script.Utility.Input

/-!
Utilities that work on numbers: rows of them, and expressions whose parts are arguments.
-/

set_option autoImplicit false

namespace PxeLaunch.Script

/-! ### Rows of numbers -/

/-- A decimal number: its digits without the point, and how many of them stand after it. -/
structure RowNumber where
  digits : Int
  places : Nat

/-- The decimal number that a text spells. A power of ten makes a whole number of it if it can. -/
def RowNumber.ofText? (cs : Chars) : Option RowNumber :=
  let (sign, text) := signed (cs.dropWhile isSpace)
  let whole := text.takeWhile Char.isDigit
  let rest := text.drop whole.length
  let (fraction, rest) := match rest with
    | '.' :: ds => (ds.takeWhile Char.isDigit, ds.drop (ds.takeWhile Char.isDigit).length)
    | _ => ([], rest)
  if whole.isEmpty && fraction.isEmpty then none
  else
    let n : Int := sign * natOf 10 (whole ++ fraction)
    match rest with
    | [] => some ⟨n, fraction.length⟩
    | e :: power =>
      let (sign, ds) := signed power
      if (e != 'e' && e != 'E') || ds.isEmpty || !ds.all Char.isDigit then none
      else
        let shift : Int := sign * natOf 10 ds - fraction.length
        if 0 ≤ shift then some ⟨n * Nat.pow 10 shift.toNat, 0⟩ else some ⟨n, (-shift).toNat⟩

/-- The digits of a number with some places. -/
def RowNumber.scaled (d : RowNumber) (places : Nat) : Int :=
  d.digits * Nat.pow 10 (places - d.places)

/-- A number of units that have some places. -/
def decimalUnits (places : Nat) (n : Int) : Chars :=
  (if n < 0 then ['-'] else []) ++ withPoint places n.natAbs

/-- A number with zeros in front of it. -/
def paddedNumber (width : Nat) (cs : Chars) : Chars :=
  let zeros := List.replicate (width - cs.length) '0'
  match cs with
  | '-' :: digits => '-' :: zeros ++ digits
  | _ => zeros ++ cs

/-- Whether a row goes on with a number. -/
def rowGoesOn (step last n : Int) : Bool := if 0 < step then n ≤ last else last ≤ n

/-- The numbers of a row. -/
def rowFrom (step last : Int) : (fuel : Nat) → Int → List Int
  | 0, _ => []
  | fuel + 1, n => if rowGoesOn step last n then n :: rowFrom step last fuel (n + step) else []

/-- The most numbers that are shown. -/
def longestRow : Nat := 200000

/-- Options at the front, after which negative numbers can come. -/
def splitNumbers (args : List Chars) : List Chars × List Chars :=
  let isNumber (arg : Chars) : Bool := match arg with
    | '-' :: c :: _ => c = '.' || c.isDigit
    | _ => false
  let options := args.takeWhile (!isNumber ·)
  (options, args.drop options.length)

def showRow : Utility := fun args s =>
  let (front, numbers) := splitNumbers args
  withOptions "seq" ⟨"w", "fs", [("equal-width", 'w'), ("format", 'f'), ("separator", 's')],
    false⟩ 1 (fun g s =>
    let operands := g.operands ++ numbers
    let invalid (arg : Chars) : Shell :=
      pointToHelp "seq" 1
        (blame "seq" ("invalid floating point argument: ".toList ++ quotedName arg) 1 s)
    let row (first step last : RowNumber) (zero : Chars) : Shell :=
      if step.digits = 0 then
        pointToHelp "seq" 1
          (blame "seq" ("invalid Zero increment value: ".toList ++ quotedName zero) 1 s)
      else
        let places := max first.places step.places
        let fine := max places last.places
        let unit : Int := Nat.pow 10 (fine - places)
        let values := rowFrom (step.scaled fine) (last.scaled fine) longestRow (first.scaled fine)
        let texts := values.map fun n => decimalUnits places (n / unit)
        let width := (texts.map List.length).foldl max 0
        let lastText := decimalUnits places (last.scaled fine / unit)
        let width := max width lastText.length
        let shown := texts.map fun text =>
          match g.value? 'f' with
          | some format => (formatted format [text]).1
          | none => if g.has 'w' then paddedNumber width text else text
        let gap := (g.value? 's').getD ['\n']
        if shown.isEmpty then s.answer 0 else s.say (gap.intercalate shown ++ ['\n'])
    let one : RowNumber := ⟨1, 0⟩
    let badFormat? := (g.value? 'f').bind fun format =>
      let directive := (format.dropWhile (· != '%')).drop 1
      let conversion := directive.dropWhile fun c => c.isDigit || "#-+ 0.'".toList.contains c
      match directive, conversion with
      | [], _ => some ("format ".toList ++ quotedName format ++ " has no % directive".toList)
      | _, c :: _ =>
        if "eEfFgGaA".toList.contains c then none
        else some ("format ".toList ++ quotedName format ++ " has unknown %".toList ++ c ::
          " directive".toList)
      | _, [] => some ("format ".toList ++ quotedName format ++ " ends in %".toList)
    match badFormat?, operands.find? fun arg => (RowNumber.ofText? arg).isNone,
      operands.map RowNumber.ofText? with
    | some text, _, _ => blame "seq" text 1 s
    | none, some arg, _ => invalid arg
    | none, none, [] => missingOperand "seq" 1 s
    | none, none, [some last] => row one one last []
    | none, none, [some first, some last] => row first one last []
    | none, none, [some first, some step, some last] => row first step last (operands[1]?.getD [])
    | none, none, _ => extraOperand "seq" (operands[3]?.getD []) s) front s

/-! ### Expressions -/

/-- Why an expression has no value. -/
inductive ExprFault where
  | missingOperand
  | missingArgument (word : Chars)
  | unexpectedArgument (word : Chars)
  | unexpectedClosing
  | closingExpected (word : Chars)
  | notNumber
  | divisionByZero
  | badPattern (text : Chars)

def ExprFault.message : ExprFault → Chars
  | .missingOperand => "missing operand".toList
  | .missingArgument word => "syntax error: missing argument after ".toList ++ quotedName word
  | .unexpectedArgument word => "syntax error: unexpected argument ".toList ++ quotedName word
  | .unexpectedClosing => "syntax error: unexpected ')'".toList
  | .closingExpected word => "syntax error: expecting ')' after ".toList ++ quotedName word
  | .notNumber => "non-integer argument".toList
  | .divisionByZero => "division by zero".toList
  | .badPattern text => text

namespace ExprValue

/-- The whole number that a text spells. -/
def int? (cs : Chars) : Option Int :=
  let (sign, digits) := match cs with
    | '-' :: rest => (-1, rest)
    | _ => ((1 : Int), cs)
  if digits.isEmpty || !digits.all Char.isDigit then none else some (sign * natOf 10 digits)

/-- Whether a text counts as none: an empty one, or zeros. -/
def isNull (cs : Chars) : Bool :=
  let digits := match cs with
    | '-' :: rest => rest
    | _ => cs
  cs.isEmpty || !digits.isEmpty && digits.all (· = '0')

end ExprValue

/-- Words that are being read, and the one before them. -/
structure ExprWords where
  last : Chars
  rest : List Chars

/-- Reads a value from words, unless it does not count, and leaves the others. -/
abbrev ExprReader := (counts : Bool) → ExprWords → Except ExprFault (Chars × ExprWords)

/-- The word that has to come next. -/
def ExprWords.next (w : ExprWords) : Except ExprFault (Chars × ExprWords) :=
  match w.rest with
  | word :: rest => .ok (word, ⟨word, rest⟩)
  | [] => .error (.missingArgument w.last)

/-- What the front of a text has in common with a pattern: its first group, or its length. -/
def frontMatch (text pattern : Chars) : Except ExprFault Chars :=
  match Regular.Search.ofText ⟨false, .edgesAndControls, false, false⟩ pattern with
  | .error _ => .error (.badPattern "Invalid preceding regular expression".toList)
  | .ok search =>
    let subject := search.subject text
    match search.at? subject (fun _ => true) 0 with
    | some m => .ok (if 0 < search.groups then m.group subject 1 else natText m.stop)
    | none => .ok (if 0 < search.groups then [] else ['0'])

/-- A part of a text, from a place on that is counted from one. -/
def partOf (text start count : Chars) : Chars :=
  match ExprValue.int? start, ExprValue.int? count with
  | some i, some n => if i ≤ 0 || n ≤ 0 then [] else (text.drop (i.toNat - 1)).take n.toNat
  | _, _ => []

/-- Reads what stands between signs. -/
def readOperand (whole : ExprReader) : (fuel : Nat) → ExprReader
  | 0, _, w => .error (.missingArgument w.last)
  | fuel + 1, counts, w => do
    let inner := readOperand whole fuel counts
    let (word, w) ← w.next
    match String.ofList word with
    | "(" =>
      let (value, w) ← whole counts w
      match w.rest with
      | [')'] :: rest => return (value, ⟨[')'], rest⟩)
      | _ => .error (.closingExpected w.last)
    | ")" => .error .unexpectedClosing
    | "+" => w.next
    | "length" => do
      let (text, w) ← inner w
      return (natText text.length, w)
    | "match" => do
      let (text, w) ← inner w
      let (pattern, w) ← inner w
      return (← frontMatch text pattern, w)
    | "index" => do
      let (text, w) ← inner w
      let (set, w) ← inner w
      let place := match text.findIdx? set.contains with
        | some i => i + 1
        | none => 0
      return (natText place, w)
    | "substr" => do
      let (text, w) ← inner w
      let (start, w) ← inner w
      let (count, w) ← inner w
      return (partOf text start count, w)
    | _ => return (word, w)

/-- Reads values with signs between them that bind to the left. -/
def readLeft (inner : ExprReader) (signs : List String)
    (apply : (counts : Bool) → String → Chars → Chars → Except ExprFault Chars)
    (needs : String → Chars → Bool) : ExprReader := fun counts w => do
  let (first, w) ← inner counts w
  go (w.rest.length + 1) counts first w
where
  go : (fuel : Nat) → (counts : Bool) → Chars → ExprWords → Except ExprFault (Chars × ExprWords)
    | 0, _, a, w => .ok (a, w)
    | fuel + 1, counts, a, w => do
      match w.rest with
      | word :: rest =>
        let sign := String.ofList word
        if signs.contains sign then
          let (b, w) ← inner (counts && needs sign a) ⟨word, rest⟩
          go fuel counts (← apply counts sign a b) w
        else return (a, w)
      | [] => return (a, w)

/-- Works on two numbers. -/
def calculate (counts : Bool) (sign : String) (a b : Chars) : Except ExprFault Chars :=
  if !counts then .ok ['0']
  else match ExprValue.int? a, ExprValue.int? b with
    | some m, some n =>
      match sign with
      | "+" => .ok (intText (m + n))
      | "-" => .ok (intText (m - n))
      | "*" => .ok (intText (m * n))
      | "/" => if n = 0 then .error .divisionByZero else .ok (intText (m.tdiv n))
      | _ => if n = 0 then .error .divisionByZero else .ok (intText (m.tmod n))
    | _, _ => .error .notNumber

/-- Compares two values: as numbers if both are, and as texts otherwise. -/
def compareValues (sign : String) (a b : Chars) : Chars :=
  let order : Ordering := match ExprValue.int? a, ExprValue.int? b with
    | some m, some n => compare m n
    | _, _ =>
      if a = b then .eq else if Bytes.before a.toBytes b.toBytes then .lt else .gt
  let holds : Bool := match sign with
    | "<" => order = .lt
    | "<=" => order != .gt
    | ">" => order = .gt
    | ">=" => order != .lt
    | "!=" => order != .eq
    | _ => order = .eq
  if holds then ['1'] else ['0']

/-- Reads a whole expression. -/
def readExpr : (fuel : Nat) → ExprReader
  | 0, _, w => .error (.missingArgument w.last)
  | fuel + 1, counts, w =>
    let operand := readOperand (readExpr fuel) (w.rest.length + 1)
    let always (_ : String) (_ : Chars) : Bool := true
    let matching := readLeft operand [":"]
      (fun counts _ a b => if counts then frontMatch a b else .ok ['0']) always
    let product := readLeft matching ["*", "/", "%"] calculate always
    let sum := readLeft product ["+", "-"] calculate always
    let comparison := readLeft sum ["<", "<=", "=", "==", "!=", ">=", ">"]
      (fun _ sign a b => .ok (compareValues sign a b)) always
    let both := readLeft comparison ["&"]
      (fun _ _ a b => .ok (if ExprValue.isNull a || ExprValue.isNull b then ['0'] else a))
      fun _ a => !ExprValue.isNull a
    let either := readLeft both ["|"]
      (fun _ _ a b => .ok (if !ExprValue.isNull a then a
        else if ExprValue.isNull b then ['0'] else b))
      fun _ a => ExprValue.isNull a
    either counts w

def showExpr : Utility := fun args s =>
  let args := if args.head? = some ['-', '-'] then args.drop 1 else args
  let result : Except ExprFault Chars := do
    if args.isEmpty then throw .missingOperand
    let (value, w) ← readExpr (args.length + 1) true ⟨[], args⟩
    match w.rest with
    | word :: _ => throw (.unexpectedArgument word)
    | [] => return value
  match result with
  | .ok value => (s.say (value ++ ['\n'])).answer (if ExprValue.isNull value then 1 else 0)
  | .error .missingOperand => missingOperand "expr" 2 s
  | .error fault => blame "expr" fault.message 2 s

end PxeLaunch.Script

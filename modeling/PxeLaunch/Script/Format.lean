import PxeLaunch.Script.Number
import PxeLaunch.Text.Binary64

/-!
Formats: escapes, and texts with places where arguments are shown.
-/

set_option autoImplicit false

namespace PxeLaunch.Script

/-! ### Escapes -/

def isOctal (c : Char) : Bool := '0' ≤ c && c ≤ '7'

/-- The character with a code, of which the last eight bits count. -/
def charOfCode (n : Nat) : Char := Char.ofNat (n % 256)

/-- The character that a letter after a backslash stands for. -/
def escapeOf? (c : Char) : Option Char :=
  match c with
  | 'a' => some '\x07'
  | 'b' => some '\x08'
  | 'e' => some '\x1b'
  | 'f' => some '\x0c'
  | 'n' => some '\n'
  | 'r' => some '\r'
  | 't' => some '\t'
  | 'v' => some '\x0b'
  | '\\' => some '\\'
  | _ => none

/-- An escape after its backslash: what it stands for, and the characters after it. A zero may stand
before the octal digits of a code. -/
def escape (afterZero : Bool) : Chars → Chars × Chars
  | [] => (['\\'], [])
  | c :: rest =>
    if isOctal c then
      let cs := if afterZero && c = '0' then rest else c :: rest
      let digits := (cs.take 3).takeWhile isOctal
      ([charOfCode (natOf 8 digits)], cs.drop digits.length)
    else match escapeOf? c with
      | some e => ([e], rest)
      | none => (['\\'], c :: rest)

/-- A text with its escapes replaced, and whether one of them ended it. -/
def unescape (found : Chars) : (fuel : Nat) → Chars → Chars × Bool
  | 0, _ => (found.reverse, false)
  | _, [] => (found.reverse, false)
  | _ + 1, '\\' :: 'c' :: _ => (found.reverse, true)
  | fuel + 1, c :: rest =>
    if c = '\\' then
      let (out, after) := escape true rest
      unescape (out.reverse ++ found) fuel after
    else unescape (c :: found) fuel rest

def unescaped (cs : Chars) : Chars × Bool := unescape [] (cs.length + 1) cs

/-- Arguments as they are shown in a line, with their escapes replaced. -/
def echoText (args : List Chars) : Chars :=
  let (newline, args) := match args with
    | ['-', 'n'] :: rest => (false, rest)
    | _ => (true, args)
  let (out, stopped) := unescaped ([' '].intercalate args)
  if newline && !stopped then out ++ ['\n'] else out

/-! ### Decimals -/

/-- A number with its fraction, read from the front of a text, and what follows it. -/
def decimalAt? (cs : Chars) : Option (Binary64 × Chars) :=
  let text := cs.dropWhile isSpace
  let negative := text.head? = some '-'
  let text := (signed text).2
  let whole := text.takeWhile Char.isDigit
  let rest := text.drop whole.length
  let places := match rest with
    | '.' :: ds => ds.takeWhile Char.isDigit
    | _ => []
  let rest := match rest with
    | '.' :: ds => if whole.isEmpty && places.isEmpty then rest else ds.drop places.length
    | _ => rest
  if whole.isEmpty && places.isEmpty then
    let word := String.ofList ((text.takeWhile Char.isAlpha).map Char.toLower)
    if word = "inf" || word = "infinity" then some (.infinite negative, text.drop word.length)
    else if word = "nan" then some (.nan, text.drop 3)
    else none
  else
    let (power, rest) : Int × Chars := match rest with
      | e :: more =>
        let (sign, ds) := signed more
        let digits := ds.takeWhile Char.isDigit
        if (e = 'e' || e = 'E') && !digits.isEmpty then
          (sign * natOf 10 digits, ds.drop digits.length)
        else (0, rest)
      | [] => (0, rest)
    some (.ofDecimal negative (natOf 10 (whole ++ places)) (power - places.length), rest)

/-- The magnitude of a finite number as a fraction. -/
def fraction (significand : Nat) (exponent : Int) : Nat × Nat :=
  if 0 ≤ exponent then (significand * Nat.pow 2 exponent.toNat, 1)
  else (significand, Nat.pow 2 (-exponent).toNat)

/-- Digits with a point before the last of them. -/
def withPoint (places : Nat) (n : Nat) : Chars :=
  let digits := natText n
  let digits := List.replicate (places + 1 - digits.length) '0' ++ digits
  let whole := digits.take (digits.length - places)
  if places = 0 then whole else whole ++ '.' :: digits.drop (digits.length - places)

/-- A fraction with some places. -/
def fixedText (num den places : Nat) : Chars :=
  withPoint places (Binary64.roundHalfEven (num * Nat.pow 10 places) den)

/-- The digits of a fraction, rounded to a number of them, and the power of ten of the first. -/
def leadingDigits (num den count : Nat) : Chars × Int :=
  if num = 0 then (List.replicate count '0', 0)
  else
    let power := Binary64.pointPosition num den - 1
    let shift : Int := (count : Int) - 1 - power
    let n := if 0 ≤ shift then Binary64.roundHalfEven (num * Nat.pow 10 shift.toNat) den
      else Binary64.roundHalfEven num (den * Nat.pow 10 (-shift).toNat)
    let digits := natText n
    (digits.take count, power + ((digits.length : Int) - count))

/-- The power of ten as it is shown after digits. -/
def powerText (letter : Char) (power : Int) : Chars :=
  let digits := natText power.natAbs
  letter :: (if power < 0 then '-' else '+') ::
    (if digits.length < 2 then '0' :: digits else digits)

/-- Digits, of which one stands before the point. -/
def pointedDigits (digits : Chars) : Chars :=
  if digits.length ≤ 1 then digits else digits.take 1 ++ '.' :: digits.drop 1

def withoutZeros (cs : Chars) : Chars :=
  if cs.contains '.' then
    let kept := (cs.reverse.dropWhile (· = '0')).reverse
    if kept.getLast? = some '.' then kept.dropLast else kept
  else cs

/-- The magnitude of a number as a conversion shows it. The general one takes the shorter notation
and leaves out zeros. -/
def magnitudeText (conversion : Char) (precision : Nat) (num den : Nat) : Chars :=
  let letter := if conversion.isUpper then 'E' else 'e'
  match conversion.toLower with
  | 'f' => fixedText num den precision
  | 'e' =>
    let (digits, power) := leadingDigits num den (precision + 1)
    pointedDigits digits ++ powerText letter power
  | _ =>
    let count := max precision 1
    let (digits, power) := leadingDigits num den count
    if -4 ≤ power && power < count then
      withoutZeros (fixedText num den ((count : Int) - 1 - power).toNat)
    else withoutZeros (pointedDigits digits) ++ powerText letter power

/-- A number as a conversion shows it, and whether it has a sign. -/
def decimalText (conversion : Char) (precision : Nat) : Binary64 → Bool × Chars
  | .nan => (false, "nan".toList)
  | .infinite negative => (negative, "inf".toList)
  | .finite negative m e =>
    let (num, den) := fraction m e
    (negative, magnitudeText conversion precision num den)

/-! ### Fields -/

/-- How a field is to be filled. -/
structure Field where
  flags : Chars
  width : Nat
  precision : Option Nat

/-- A text in a field. -/
def Field.fill (f : Field) (cs : Chars) : Chars :=
  let blanks := List.replicate (f.width - cs.length) ' '
  if f.flags.contains '-' then cs ++ blanks else blanks ++ cs

/-- The sign of a number in a field. -/
def Field.sign (f : Field) (negative : Bool) : Chars :=
  if negative then ['-']
  else if f.flags.contains '+' then ['+']
  else if f.flags.contains ' ' then [' ']
  else []

/-- A number in a field, in which zeros may stand between the sign and the digits. -/
def Field.fillNumber (f : Field) (zeros : Bool) (sign digits : Chars) : Chars :=
  if zeros && f.flags.contains '0' && !f.flags.contains '-' then
    sign ++ List.replicate (f.width - sign.length - digits.length) '0' ++ digits
  else f.fill (sign ++ digits)

/-- Digits with as many zeros as the precision asks for. -/
def Field.digits (f : Field) (digits : Chars) : Chars :=
  match f.precision with
  | some 0 => if digits = ['0'] then [] else digits
  | some n => List.replicate (n - digits.length) '0' ++ digits
  | none => digits

/-- A whole number in a field. -/
def Field.integer (f : Field) (conversion : Char) (n : Int) : Chars :=
  let zeros := f.precision.isNone
  let unsigned (base : Nat) (lead : Chars) : Chars :=
    let ds := Nat.toDigits base (n % wordRange).toNat
    let ds := if conversion = 'X' then ds.map Char.toUpper else ds
    f.fillNumber zeros (if f.flags.contains '#' && n != 0 then lead else []) (f.digits ds)
  match conversion with
  | 'o' => unsigned 8 ['0']
  | 'x' => unsigned 16 ['0', 'x']
  | 'X' => unsigned 16 ['0', 'X']
  | 'u' => unsigned 10 []
  | _ => f.fillNumber zeros (f.sign (n < 0)) (f.digits (natText n.natAbs))

/-! ### Formats -/

/-- What is wrong with a format or with an argument. -/
inductive FormatFault where
  | noNumber (arg : Chars)
  | moreThanNumber (arg : Chars)
  | tooLarge (arg : Chars)
  | unknown (directive : Chars)
  | unfinished

def FormatFault.message : FormatFault → Chars
  | .noNumber arg => arg ++ ": expected numeric value".toList
  | .moreThanNumber arg => arg ++ ": not completely converted".toList
  | .tooLarge arg => arg ++ ": Numerical result out of range".toList
  | .unknown directive => directive ++ ": invalid directive".toList
  | .unfinished => "missing format character".toList

/-- Faults in a format, unlike those in arguments, end the work on it. -/
def FormatFault.isFatal : FormatFault → Bool
  | .unknown _ => true
  | .unfinished => true
  | _ => false

/-- The whole number that an argument stands for, which may be the code of a character. -/
def integerOf (isUnsigned : Bool) (arg : Chars) : Int × Option FormatFault :=
  match arg with
  | [] => (0, none)
  | '\'' :: rest => (((rest.head?.map Char.toNat).getD 0 : Nat), none)
  | '"' :: rest => (((rest.head?.map Char.toNat).getD 0 : Nat), none)
  | _ =>
    let (sign, digits) := signed (arg.dropWhile isSpace)
    match prefixedNat? digits with
    | none => (0, some (.noNumber arg))
    | some (n, rest) =>
      let most : Int :=
        if isUnsigned then wordRange - 1 else if sign = 1 then maxWord else -minWord
      if most < n then
        ((if isUnsigned then most else sign * most), some (.tooLarge arg))
      else (sign * n, if rest.isEmpty then none else some (.moreThanNumber arg))

/-- The number with a fraction that an argument stands for. -/
def decimalOf (arg : Chars) : Binary64 × Option FormatFault :=
  match arg with
  | [] => (.finite false 0 0, none)
  | '\'' :: c :: _ => (.ofDecimal false c.toNat 0, none)
  | '"' :: c :: _ => (.ofDecimal false c.toNat 0, none)
  | _ =>
    match decimalAt? arg with
    | some (x, rest) => (x, if rest.isEmpty then none else some (.moreThanNumber arg))
    | none => (.finite false 0 0, some (.noNumber arg))

/-- The work on a format: what is shown so far, the arguments that are left, whether any has been
called for, whether an escape has ended everything, and the faults, the latest first. -/
structure Formatting where
  shown : Chars
  args : List Chars
  used : Bool
  stopped : Bool
  faults : List FormatFault

namespace Formatting

def add (w : Formatting) (cs : Chars) : Formatting := { w with shown := cs.reverse ++ w.shown }

def blame (w : Formatting) (fault : Option FormatFault) : Formatting :=
  { w with faults := fault.toList ++ w.faults }

/-- The next argument, which is empty if there is none. -/
def next (w : Formatting) : Chars × Formatting :=
  (w.args.headD [], { w with args := w.args.drop 1, used := true })

/-- A number in a format, or the one that an argument gives instead. -/
def count (w : Formatting) (cs : Chars) : Option Int × Formatting × Chars :=
  match cs with
  | '*' :: rest =>
    let (arg, w) := w.next
    let (n, fault) := integerOf false arg
    (some n, w.blame fault, rest)
  | _ =>
    let digits := cs.takeWhile Char.isDigit
    (if digits.isEmpty then none else some (natOf 10 digits), w, cs.drop digits.length)

/-- Shows an argument. -/
def convert (w : Formatting) (f : Field) (conversion : Char) : Formatting :=
  let (arg, w) := w.next
  match conversion with
  | 's' => w.add (f.fill ((f.precision.map arg.take).getD arg))
  | 'c' => w.add (f.fill [arg.headD (Char.ofNat 0)])
  | 'b' =>
    let (text, stopped) := unescaped arg
    { w.add (f.fill ((f.precision.map text.take).getD text)) with stopped := stopped }
  | _ =>
    if "eEfFgG".toList.contains conversion then
      let (x, fault) := decimalOf arg
      let (negative, text) := decimalText conversion (f.precision.getD 6) x
      (w.blame fault).add (f.fillNumber true (f.sign negative) text)
    else
      let (n, fault) := integerOf ("ouxX".toList.contains conversion) arg
      (w.blame fault).add (f.integer conversion n)

/-- Works on a directive after its percent sign. -/
def directive (w : Formatting) (cs : Chars) : Formatting × Chars :=
  let flags := cs.takeWhile fun c => "#-+ 0".toList.contains c
  let (width, w, rest) := w.count (cs.drop flags.length)
  let (precision, w, rest) : Option Nat × Formatting × Chars := match rest with
    | '.' :: after =>
      let (n, w, rest) := w.count after
      (some (n.getD 0).toNat, w, rest)
    | _ => (none, w, rest)
  match rest with
  | [] => (w.blame (some .unfinished), [])
  | conversion :: after =>
    if "diouxXeEfFgGcsb".toList.contains conversion then
      let wide := width.getD 0
      let flags := if wide < 0 then '-' :: flags else flags
      (w.convert ⟨flags, wide.natAbs, precision⟩ conversion, after)
    else
      let shown := '%' :: cs.take (cs.length - after.length)
      (w.blame (some (.unknown shown)), [])

/-- Goes through a format once. -/
def through (w : Formatting) : (fuel : Nat) → Chars → Formatting
  | 0, _ => w
  | _, [] => w
  | fuel + 1, c :: rest =>
    if w.stopped then w
    else if c = '\\' then
      let (out, after) := escape false rest
      (w.add out).through fuel after
    else if c = '%' then
      match rest with
      | '%' :: after => (w.add ['%']).through fuel after
      | _ =>
        let (w, after) := w.directive rest
        w.through fuel after
    else (w.add [c]).through fuel rest

/-- Goes through a format until the arguments are used up. -/
def repeated (format : Chars) : (fuel : Nat) → Formatting → Formatting
  | 0, w => w
  | fuel + 1, w =>
    let w := { w with used := false }.through (format.length + 1) format
    if w.used && !w.args.isEmpty && !w.stopped && !w.faults.any (·.isFatal) then
      repeated format fuel w
    else w

end Formatting

/-- What a format shows of arguments, and the faults on the way. -/
def formatted (format : Chars) (args : List Chars) : Chars × List FormatFault :=
  let w := Formatting.repeated format (args.length + 1) ⟨[], args, false, false, []⟩
  (w.shown.reverse, w.faults.reverse)

end PxeLaunch.Script

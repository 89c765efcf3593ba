import PxeLaunch.Script.Format
import PxeLaunch.Script.Utility.Records.Tree

/-!
Values of programs over records. A value is a number or a text, or both at once if it comes from
the input and looks like a number.
-/

set_option autoImplicit false

namespace PxeLaunch.Script.Records

/-! ### Numbers -/

/-- A machine's number in exact form. -/
def exact (x : Float) : Binary64 :=
  if x.isNaN then .nan
  else
    let bits := x.toBits.toNat
    let negative := 1 ≤ bits / 0x8000000000000000
    let power := bits / 0x10000000000000 % 0x800
    let digits := bits % 0x10000000000000
    if power = 0x7ff then .infinite negative
    else if power = 0 then .finite negative digits (-1074)
    else .finite negative (digits + 0x10000000000000) ((power : Int) - 1075)

def signedNumber (negative : Bool) (x : Float) : Float := if negative then -x else x

def infinity : Float := 1.0 / 0.0

def notANumber : Float := 0.0 / 0.0

/-- The machine's number of an exact form. -/
def ofExact : Binary64 → Float
  | .nan => notANumber
  | .infinite negative => signedNumber negative infinity
  | .finite negative m e => signedNumber negative (Float.scaleB (Float.ofNat m) e)

/-- A number without its fraction; there is none if it is not finite. -/
def whole? (x : Float) : Option Int :=
  match exact x with
  | .finite negative m e =>
    let (num, den) := fraction m e
    let n : Int := num / den
    some (if negative then -n else n)
  | _ => none

def ofInt (n : Int) : Float := signedNumber (n < 0) (Float.ofNat n.natAbs)

/-- The number at the front of a text, and what follows it. -/
def numberAt? (cs : Chars) : Option (Float × Chars) :=
  let body := cs.dropWhile isSpace
  let (sign, digits) := signed body
  match digits with
  | '0' :: x :: rest =>
    if (x = 'x' || x = 'X') && (rest.head?.any isHexDigit) then
      let ds := rest.takeWhile isHexDigit
      some (signedNumber (sign < 0) (Float.ofNat (natOf 16 ds)), rest.drop ds.length)
    else (decimalAt? cs).map fun (x, rest) => (ofExact x, rest)
  | _ => (decimalAt? cs).map fun (x, rest) => (ofExact x, rest)

/-- The number that a text begins with. -/
def numberOf (cs : Chars) : Float := ((numberAt? cs).map (·.1)).getD 0.0

/-! ### Values -/

inductive Value where
  | unset
  | number (x : Float)
  | text (cs : Chars)
  | input (cs : Chars)

/-- The number that a text from the input is, if it is nothing else. -/
def inputNumber? (cs : Chars) : Option Float :=
  match numberAt? cs with
  | some (x, rest) => if rest.all isSpace then some x else none
  | none => none

namespace Value

def ofBool (b : Bool) : Value := .number (if b then 1.0 else 0.0)

def ofNat (n : Nat) : Value := .number (Float.ofNat n)

def toNumber : Value → Float
  | .unset => 0.0
  | .number x => x
  | .text cs => numberOf cs
  | .input cs => numberOf cs

def isTrue : Value → Bool
  | .unset => false
  | .number x => x != 0.0
  | .text cs => !cs.isEmpty
  | .input cs =>
    match inputNumber? cs with
    | some x => x != 0.0
    | none => !cs.isEmpty

/-- The number of a value that counts as one in comparisons. -/
def comparedNumber? : Value → Option Float
  | .unset => some 0.0
  | .number x => some x
  | .text _ => none
  | .input cs => inputNumber? cs

end Value

/-! ### Formats -/

/-- A number as a signed whole one, as far as a format can show it. -/
def signedWhole (x : Float) : Int :=
  match whole? x with
  | some n => max (-maxWord) (min (wordRange - 1) n)
  | none => if x.isNaN then minWord else if x < 0.0 then -maxWord else wordRange - 1

/-- A number as a whole one without a sign. -/
def unsignedWhole (x : Float) : Int :=
  let most : Int := wordRange - 1
  match whole? x with
  | some n => max (-most) (min most n)
  | none => if x.isNaN then 0 else if x < 0.0 then -most else most

/-- A number without an exponent or a fraction in it, if that tells it exactly. -/
def wholeText? (x : Float) : Option Chars :=
  match whole? x with
  | some n =>
    if ofInt n == x && minWord ≤ n && n ≤ wordRange then some (intText (min n (wordRange - 1)))
    else none
  | none => none

/-- A number in a field of a format. -/
def floatText (f : Field) (conversion : Char) (x : Float) : Chars :=
  let precision := f.precision.getD 6
  let (negative, text) := decimalText conversion precision (exact x)
  f.fillNumber (!x.isNaN && !x.isInf) (f.sign negative) text

/-- What is wrong with a format. -/
inductive FormatFlaw where
  | noArgument
  | badConversion (number : Nat)

/-- The flags, the width and the precision in front of a conversion, the arguments that are left,
and what follows. -/
def readField (args : List Value) (cs : Chars) :
    Except FormatFlaw (Field × List Value × Chars) := do
  let flags := cs.takeWhile fun c => "#-+ 0".toList.contains c
  let count (args : List Value) (cs : Chars) :
      Except FormatFlaw (Option Int × List Value × Chars) :=
    match cs, args with
    | '*' :: rest, v :: args => .ok (some (signedWhole v.toNumber), args, rest)
    | '*' :: _, [] => .error .noArgument
    | _, _ =>
      let digits := cs.takeWhile Char.isDigit
      .ok (if digits.isEmpty then none else some (natOf 10 digits), args, cs.drop digits.length)
  let (width, args, rest) ← count args (cs.drop flags.length)
  let (precision, args, rest) ← match rest with
    | '.' :: after => do
      let (n, args, rest) ← count args after
      pure (some (n.getD 0).toNat, args, rest)
    | _ => pure (none, args, rest)
  let wide := width.getD 0
  let flags := if wide < 0 then '-' :: flags else flags
  return (⟨flags, wide.natAbs, precision⟩, args, rest.dropWhile fun c => c = 'l' || c = 'h')

/-- A value in a field of a format. -/
def fieldText (f : Field) (toText : Value → Chars) (conversion : Char) (v : Value) : Chars :=
  match conversion with
  | 'c' =>
    match v with
    | .number x => f.fill [charOfCode ((unsignedWhole x) % 256).toNat]
    | _ =>
      f.fill [(toText v).headD (Char.ofNat 0)]
  | 's' =>
    let text := toText v
    f.fill ((f.precision.map text.take).getD text)
  | 'd' => f.integer 'd' (signedWhole v.toNumber)
  | 'i' => f.integer 'd' (signedWhole v.toNumber)
  | 'o' => f.integer 'o' (unsignedWhole v.toNumber)
  | 'x' => f.integer 'x' (unsignedWhole v.toNumber)
  | 'X' => f.integer 'X' (unsignedWhole v.toNumber)
  | 'u' => f.integer 'u' (unsignedWhole v.toNumber)
  | _ => floatText f conversion v.toNumber

/-- What a format shows of values, with what is shown before a flaw. -/
def formattedFrom (toText : Value → Chars) (shown : Chars) (number : Nat) (args : List Value) :
    (fuel : Nat) → Chars → Chars × Option FormatFlaw
  | 0, _ => (shown.reverse, none)
  | _, [] => (shown.reverse, none)
  | fuel + 1, c :: rest =>
    if c != '%' then formattedFrom toText (c :: shown) number args fuel rest
    else match rest with
      | '%' :: after => formattedFrom toText ('%' :: shown) number args fuel after
      | _ =>
        match readField args rest with
        | .error flaw => (shown.reverse, some flaw)
        | .ok (f, args, rest) =>
          match rest, args with
          | conversion :: after, v :: args =>
            if "cdiouxXeEfFgGs".toList.contains conversion then
              let text := fieldText f toText conversion v
              formattedFrom toText (text.reverse ++ shown) (number + 1) args fuel after
            else (shown.reverse, some (.badConversion number))
          | _, [] => (shown.reverse, some .noArgument)
          | [], _ => (shown.reverse, some (.badConversion number))

/-- What a format shows of values. -/
def formattedValues (toText : Value → Chars) (format : Chars) (args : List Value) :
    Chars × Option FormatFlaw :=
  formattedFrom toText [] 1 args (format.length + 1) format

/-- A number as a text: whole if it is, in a format otherwise. -/
def numberText (format : Chars) (x : Float) : Chars :=
  match wholeText? x with
  | some text => text
  | none => (formattedValues (fun _ => []) format [.number x]).1

/-- A value as a text. -/
def Value.toText (format : Chars) : Value → Chars
  | .unset => []
  | .number x => numberText format x
  | .text cs => cs
  | .input cs => cs

end PxeLaunch.Script.Records

import PxeLaunch.Toml.Value

/-!
Numbers, truth values, dates and times. Each is a run of letters, digits and a few marks; the whole
run has to have one of the forms.
-/

set_option autoImplicit false

namespace PxeLaunch.Toml.Scalar

/-- The characters that such a run is made of. -/
def isScalarChar (c : Char) : Bool :=
  c.isAlphanum || c = '_' || c = '+' || c = '-' || c = '.' || c = ':'

/-- Digits with underscores between them left out. An underscore stands between two digits. -/
def digitsFrom (isDigit : Char → Bool) (afterDigit : Bool) : List Char → Option (List Char)
  | [] => if afterDigit then some [] else none
  | '_' :: rest => if afterDigit then digitsFrom isDigit false rest else none
  | c :: rest =>
    if isDigit c then (digitsFrom isDigit true rest).map (c :: ·) else none

/-- The digits of a number in some base. -/
def digits? (isDigit : Char → Bool) (cs : List Char) : Option (List Char) :=
  digitsFrom isDigit false cs

/-- Decimal digits of which the first is no zero, unless it is the only one. -/
def wholeDigits? (cs : List Char) : Option (List Char) :=
  match cs with
  | '0' :: _ :: _ => none
  | _ => digits? Char.isDigit cs

def isHex (c : Char) : Bool := c.isDigit || ('a' ≤ c && c ≤ 'f') || ('A' ≤ c && c ≤ 'F')

/-- The value of a digit in a base of up to 16. -/
def digitValue (c : Char) : Nat :=
  if c.isDigit then c.toNat - '0'.toNat
  else if 'a' ≤ c && c ≤ 'f' then c.toNat - 'a'.toNat + 10
  else c.toNat - 'A'.toNat + 10

/-- The number that digits spell in a base. -/
def ofDigits (base : Nat) (ds : List Char) : Nat := ds.foldl (fun n c => n * base + digitValue c) 0

/-- A sign, if there is one, and the rest. -/
def splitSign : List Char → Bool × List Char
  | '+' :: rest => (false, rest)
  | '-' :: rest => (true, rest)
  | cs => (false, cs)

/-- An integer of 64 bits. -/
def inRange? (n : Int) : Option Int :=
  if -0x8000000000000000 ≤ n && n < 0x8000000000000000 then some n else none

/-- An integer in one of the four notations. -/
def integer? (cs : List Char) : Option Int :=
  match cs with
  | '0' :: 'x' :: rest =>
    (digits? isHex rest).bind fun ds => inRange? (ofDigits 16 ds)
  | '0' :: 'o' :: rest =>
    (digits? (fun c => '0' ≤ c && c ≤ '7') rest).bind fun ds => inRange? (ofDigits 8 ds)
  | '0' :: 'b' :: rest =>
    (digits? (fun c => c = '0' || c = '1') rest).bind fun ds => inRange? (ofDigits 2 ds)
  | _ =>
    let (negative, body) := splitSign cs
    (wholeDigits? body).bind fun ds =>
      let n : Int := ofDigits 10 ds
      inRange? (if negative then -n else n)

/-- The exponent of a number, from its letter; no letter means zero. -/
def exponent? : List Char → Option Int
  | [] => some 0
  | _ :: rest =>
    let (negative, body) := splitSign rest
    (digits? Char.isDigit body).map fun ds =>
      let n : Int := ofDigits 10 ds
      if negative then -n else n

/-- A floating-point number. It has a fraction or an exponent, and is not too great. -/
def float? (cs : List Char) : Option Binary64 := do
  let (negative, body) := splitSign cs
  if body = ['i', 'n', 'f'] then some (.infinite negative)
  else if body = ['n', 'a', 'n'] then some .nan
  else
    let isE (c : Char) : Bool := c = 'e' || c = 'E'
    let mantissa := body.takeWhile (!isE ·)
    let tail := body.dropWhile (!isE ·)
    let whole ← wholeDigits? (mantissa.takeWhile (· != '.'))
    let places ← match mantissa.dropWhile (· != '.') with
      | [] => if tail.isEmpty then none else some []
      | _ :: fraction => digits? Char.isDigit fraction
    let exponent ← exponent? tail
    let x := Binary64.ofDecimal negative (ofDigits 10 (whole ++ places)) (exponent - places.length)
    if x = .infinite false then none else some x

/-- The value of a run. -/
def value? (cs : List Char) : Option Value :=
  if cs = ['t', 'r', 'u', 'e'] then some (.boolean true)
  else if cs = ['f', 'a', 'l', 's', 'e'] then some (.boolean false)
  else match Datetime.ofChars? cs with
    | some d => some (.datetime d)
    | none =>
      match integer? cs with
      | some n => some (.integer n)
      | none => (float? cs).map Value.float

/-- Reads such a value. A blank may stand between a date and a time. -/
def read? (cs : List Char) : Option (Value × List Char) :=
  let run := cs.takeWhile isScalarChar
  let rest := cs.dropWhile isScalarChar
  match rest with
  | ' ' :: after =>
    let isDate := (Datetime.date? run).any (·.2.isEmpty)
    if isDate && (after.head?.map Char.isDigit).getD false then
      (value? (run ++ ' ' :: after.takeWhile isScalarChar)).map fun v =>
        (v, after.dropWhile isScalarChar)
    else (value? run).map fun v => (v, rest)
  | _ => (value? run).map fun v => (v, rest)

end PxeLaunch.Toml.Scalar

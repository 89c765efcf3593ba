/-!
Binary floating-point numbers of 64 bits and their decimal forms. A decimal is read as the nearest
such number, ties going to the even one; a number is written with the fewest digits that are read
back as the same number, in positional notation and with at least one place.
-/

set_option autoImplicit false

namespace PxeLaunch

/-- A floating-point number: `significand * 2 ^ exponent` with a sign, an infinity, or no number. -/
inductive Binary64 where
  | finite (negative : Bool) (significand : Nat) (exponent : Int)
  | infinite (negative : Bool)
  | nan
  deriving Repr, DecidableEq

namespace Binary64

/-- The quotient rounded to the nearest number, a half to the even one. -/
def roundHalfEven (num den : Nat) : Nat :=
  let q := num / den
  let r := num % den
  if 2 * r < den then q else if den < 2 * r then q + 1 else if q % 2 = 0 then q else q + 1

/-- `num / den / 2 ^ e` as a fraction. -/
def scaleBinary (num den : Nat) (e : Int) : Nat × Nat :=
  if 0 ≤ e then (num, den * Nat.pow 2 e.toNat) else (num * Nat.pow 2 (-e).toNat, den)

/-- The number nearest to a positive fraction. -/
def ofFraction (negative : Bool) (num den : Nat) : Binary64 :=
  let estimate : Int := max ((num.log2 : Int) - den.log2 - 53) (-1074)
  let (n₀, d₀) := scaleBinary num den estimate
  let e := if 0x20000000000000 ≤ n₀ / d₀ then estimate + 1 else estimate
  let (n, d) := scaleBinary num den e
  let m := roundHalfEven n d
  let (m, e) := if m = 0x20000000000000 then (0x10000000000000, e + 1) else (m, e)
  if 971 < e then .infinite negative
  else if m = 0 then .finite negative 0 0 else .finite negative m e

/-- The number nearest to `digits * 10 ^ exponent`. -/
def ofDecimal (negative : Bool) (digits : Nat) (exponent : Int) : Binary64 :=
  if digits = 0 then .finite negative 0 0
  else
    let magnitude : Int := exponent + (Nat.toDigits 10 digits).length
    if 310 < magnitude then .infinite negative
    else if magnitude < -330 then .finite negative 0 0
    else if 0 ≤ exponent then ofFraction negative (digits * Nat.pow 10 exponent.toNat) 1
    else ofFraction negative digits (Nat.pow 10 (-exponent).toNat)

/-- The least number of places, up to the fuel, at which a fraction reaches one. -/
def placesToOne (num den : Nat) : (fuel : Nat) → Nat
  | 0 => 0
  | fuel + 1 => if den ≤ num then 0 else placesToOne (num * 10) den fuel + 1

/-- The position of the decimal point of a positive fraction, counted from its first digit. -/
def pointPosition (num den : Nat) : Int :=
  if den ≤ num then ((Nat.toDigits 10 (num / den)).length : Int)
  else 1 - (placesToOne num den 400 : Int)

/-- The digits of a candidate, if reading it gives the number that it was made from. -/
def candidate (x : Binary64) (digits : Nat) (exponent : Int) : Option Nat :=
  if ofDecimal false digits exponent = x then some digits else none

/-- The fewest digits that are read back as `x`, whose value is the fraction, and the exponent of
the last one. Of two neighbours on the same decimal grid the nearer is taken. -/
def shortestFrom (x : Binary64) (num den : Nat) (point : Int) (count : Nat) :
    (fuel : Nat) → Nat × Int
  | 0 => (0, 0)
  | fuel + 1 =>
    let e : Int := point - count
    let (n, d) :=
      if 0 ≤ e then (num, den * Nat.pow 10 e.toNat) else (num * Nat.pow 10 (-e).toNat, den)
    let low := n / d
    match candidate x low e, candidate x (low + 1) e with
    | some a, some b => (if 2 * (n % d) < d then a else if d < 2 * (n % d) then b
        else if a % 2 = 0 then a else b, e)
    | some a, none => (a, e)
    | none, some b => (b, e)
    | none, none => shortestFrom x num den point (count + 1) fuel

/-- `digits * 10 ^ exponent` without an exponent. Zeros at the end of the digits say nothing. -/
def positional (digits : Nat) (exponent : Int) : String :=
  let all := Nat.toDigits 10 digits
  let point : Int := exponent + all.length
  let ds := (all.reverse.dropWhile (· == '0')).reverse
  if point ≤ 0 then
    String.ofList ('0' :: '.' :: (List.replicate (-point).toNat '0' ++ ds))
  else if (ds.length : Int) ≤ point then
    String.ofList (ds ++ List.replicate (point.toNat - ds.length) '0' ++ ['.', '0'])
  else String.ofList (ds.take point.toNat ++ '.' :: ds.drop point.toNat)

/-- The decimal form of a number. -/
def text : Binary64 → String
  | .nan => "NaN"
  | .infinite negative => if negative then "-inf" else "inf"
  | .finite negative 0 _ => if negative then "-0.0" else "0.0"
  | .finite negative m e =>
    let (num, den) := if 0 ≤ e then (m * Nat.pow 2 e.toNat, 1) else (m, Nat.pow 2 (-e).toNat)
    let (digits, exponent) :=
      shortestFrom (.finite false m e) num den (pointPosition num den) 1 17
    (if negative then "-" else "") ++ positional digits exponent

end Binary64

end PxeLaunch

import PxeLaunch.Unicode.Ranges

/-!
The written form of the tables of this folder. A set of code points is written as numbers in base 36
with a blank between them: in turn the distance from the end of the range before to the start of the
next, and the number of further code points in that range.
-/

set_option autoImplicit false

namespace PxeLaunch.Unicode.Table

/-- The value of a digit in base 36. -/
def digitValue (c : Char) : Nat :=
  if c.isDigit then c.toNat - '0'.toNat else c.toNat - 'a'.toNat + 10

/-- The numbers written in a table, in order. -/
def numbersFrom (found : List Nat) (current : Option Nat) : List Char → List Nat
  | [] => (match current with
    | some n => n :: found
    | none => found).reverse
  | c :: rest =>
    if c.isAlphanum then numbersFrom found (some (current.getD 0 * 36 + digitValue c)) rest
    else match current with
      | some n => numbersFrom (n :: found) none rest
      | none => numbersFrom found none rest

/-- The ranges that distances and lengths describe, from the position `start`. -/
def rangesFrom (found : List Range) (start : Nat) : List Nat → List Range
  | gap :: more :: rest =>
    let lo := start + gap
    rangesFrom (⟨lo, lo + more⟩ :: found) (lo + more + 1) rest
  | _ => found.reverse

/-- The set that a table writes down. -/
def ranges (table : String) : RangeSet := rangesFrom [] 0 (numbersFrom [] none table.toList)

end PxeLaunch.Unicode.Table

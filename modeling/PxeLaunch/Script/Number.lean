import PxeLaunch.Script.CharClass

/-!
Numbers as scripts spell and count them: words of 64 bits with a sign.
-/

set_option autoImplicit false

namespace PxeLaunch.Script

/-- The value of a digit, of which letters are some in large bases. -/
def digitValue? (c : Char) : Option Nat :=
  if c.isDigit then some (c.toNat - '0'.toNat)
  else if 'a' ≤ c && c ≤ 'z' then some (c.toNat - 'a'.toNat + 10)
  else if 'A' ≤ c && c ≤ 'Z' then some (c.toNat - 'A'.toNat + 10)
  else none

def isDigitOf (base : Nat) (c : Char) : Bool := (digitValue? c).any (· < base)

/-- The number that digits of some base spell. -/
def natOf (base : Nat) (digits : Chars) : Nat :=
  digits.foldl (fun n c => n * base + (digitValue? c).getD 0) 0

def intText (n : Int) : Chars := (toString n).toList

def natText (n : Nat) : Chars := (toString n).toList

/-- The greatest number and the least one. -/
def maxWord : Int := 0x7fffffffffffffff

def minWord : Int := -0x8000000000000000

/-- How many numbers a word can hold. -/
def wordRange : Nat := 0x10000000000000000

/-- A number as far as a word can hold it. -/
def wrapped (n : Int) : Int := n.bmod wordRange

/-- The nearest number that a word can hold. -/
def clamped (n : Int) : Int := max minWord (min maxWord n)

/-- A number at the front of a text, in the base that its first characters call for, and what
follows it. -/
def prefixedNat? (cs : Chars) : Option (Nat × Chars) :=
  let digitsIn (base : Nat) (cs : Chars) : Option (Nat × Chars) :=
    let digits := cs.takeWhile (isDigitOf base)
    if digits.isEmpty then none else some (natOf base digits, cs.drop digits.length)
  let marked : Option (Nat × Chars) := match cs with
    | '0' :: x :: rest =>
      if x = 'x' || x = 'X' then digitsIn 16 rest
      else if x = 'b' || x = 'B' then digitsIn 2 rest
      else none
    | _ => none
  marked <|> digitsIn (if cs.head? = some '0' then 8 else 10) cs

/-- The sign at the front of a number. -/
def signed (cs : Chars) : Int × Chars :=
  match cs with
  | '-' :: rest => (-1, rest)
  | '+' :: rest => (1, rest)
  | _ => (1, cs)

/-- The number that a text spells between blanks, in the base that it calls for. A text with no
number is zero if it is blank. -/
def prefixedInt? (cs : Chars) : Option Int :=
  let (sign, digits) := signed (cs.dropWhile isSpace)
  match prefixedNat? digits with
  | some (n, rest) =>
    let value := sign * n
    if rest.all isSpace && minWord ≤ value && value ≤ maxWord then some value else none
  | none => if cs.isEmpty then some 0 else none

/-- The decimal number that a text spells between blanks. -/
def intOf? (cs : Chars) : Option Int :=
  let (sign, digits) := signed (cs.dropWhile isSpace)
  let number := digits.takeWhile Char.isDigit
  let value := sign * natOf 10 number
  if number.isEmpty || !(digits.drop number.length).all isSpace then none
  else if minWord ≤ value && value ≤ maxWord then some value
  else none

end PxeLaunch.Script

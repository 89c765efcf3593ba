import PxeLaunch.Script.Tree

/-!
Classes of characters that have names. They hold ASCII characters only, since a script is a string
of bytes.
-/

set_option autoImplicit false

namespace PxeLaunch.Script

def isAscii (c : Char) : Bool := c.toNat < 128

def isBlank (c : Char) : Bool := c = ' ' || c = '\t'

/-- Characters that make up blank space. -/
def isSpace (c : Char) : Bool := c = ' ' || ('\t' ≤ c && c ≤ '\r')

def isControl (c : Char) : Bool := c.toNat < 32 || c.toNat = 127

/-- Characters that leave a mark. -/
def isGraph (c : Char) : Bool := 32 < c.toNat && c.toNat < 127

def isHexDigit (c : Char) : Bool := c.isDigit || ('a' ≤ c && c ≤ 'f') || ('A' ≤ c && c ≤ 'F')

/-- The class with a name. -/
def charClass? (name : Chars) : Option (Char → Bool) :=
  match String.ofList name with
  | "alpha" => some Char.isAlpha
  | "digit" => some Char.isDigit
  | "alnum" => some Char.isAlphanum
  | "upper" => some Char.isUpper
  | "lower" => some Char.isLower
  | "space" => some isSpace
  | "blank" => some isBlank
  | "punct" => some fun c => isGraph c && !c.isAlphanum
  | "print" => some fun c => isGraph c || c = ' '
  | "graph" => some isGraph
  | "cntrl" => some isControl
  | "xdigit" => some isHexDigit
  | _ => none

/-- A class between colons, whose opening bracket and colon have been read, and what follows its
closing bracket. -/
def namedClass? (cs : Chars) : Option ((Char → Bool) × Chars) :=
  let name := cs.takeWhile Char.isAlpha
  match cs.drop name.length with
  | ':' :: ']' :: rest => (charClass? name).map fun isIn => (isIn, rest)
  | _ => none

end PxeLaunch.Script

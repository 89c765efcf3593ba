import PxeLaunch.Bytes

/-!
Scripts as trees. The bytes of a script are taken as characters of the same number, so that its
grammar, which knows ASCII characters only, can be written with them.
-/

set_option autoImplicit false

namespace PxeLaunch.Script

/-- Bytes taken as characters. -/
abbrev Chars := List Char

def Chars.ofBytes (bytes : Bytes) : Chars := bytes.map fun b => Char.ofNat b.toNat

def Chars.toBytes (cs : Chars) : Bytes := cs.map fun c => c.toNat.toUInt8

/-- The ways in which a descriptor is led somewhere else. -/
inductive Direction where
  | input
  | output
  | overwritten
  | appended
  | both
  | duplicate
  | text
  deriving DecidableEq

mutual

/-- A part of a word. What comes out of a part that is not in quotes may be cut at blanks. -/
inductive Part where
  | char (c : Char) (quoted : Bool)
  | quotes
  | parameter (name : Chars) (request : Request) (quoted : Bool)
  | arithmetic (expression : List Part) (quoted : Bool)
  | output (t : Tree) (quoted : Bool)

/-- What is asked of a parameter: its value, or something that depends on whether it has one. An
empty value may count as none. -/
inductive Request where
  | value
  | length
  | fallback (emptyIsNone : Bool) (word : List Part)
  | replacement (emptyIsNone : Bool) (word : List Part)
  | assignment (emptyIsNone : Bool) (word : List Part)
  | demand (emptyIsNone : Bool) (word : List Part)
  | trimmed (atEnd longest : Bool) (pattern : List Part)
  | malformed

/-- A descriptor that is led somewhere else for a command. -/
inductive Redirect where
  | mk (descriptor : Nat) (direction : Direction) (target : List Part)

/-- A command. -/
inductive Tree where
  | simple (line : Nat) (assignments : List (Chars × List Part)) (words : List (List Part))
      (redirects : List Redirect)
  | pipeline (stages : List Tree)
  | negated (t : Tree)
  | both (a b : Tree)
  | either (a b : Tree)
  | sequence (ts : List Tree)
  | background (line : Nat) (t : Tree)
  | loop (stopsAt : Bool) (condition body : Tree)
  | choice (condition yes no : Tree)
  | each (line : Nat) (name : Chars) (words : List (List Part)) (body : Tree)
  | cases (line : Nat) (word : List Part) (arms : List (List (List Part) × Tree))
  | subshell (line : Nat) (t : Tree) (redirects : List Redirect)
  | redirected (line : Nat) (t : Tree) (redirects : List Redirect)
  | definition (line : Nat) (name : Chars) (body : Tree)

end

/-- A word, before it is expanded. -/
abbrev Word := List Part

/-- The command that does nothing. -/
def Tree.nothing : Tree := .sequence []

/-- The characters of a word without quotes and expansions. -/
def plainText? : Word → Option Chars
  | [] => some []
  | .char c false :: rest => (plainText? rest).map (c :: ·)
  | _ :: _ => none

end PxeLaunch.Script

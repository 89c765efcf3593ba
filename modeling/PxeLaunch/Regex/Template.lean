import PxeLaunch.Regex.Pattern

/-!
Replacement templates. `$name` and `$` with a name in braces stand for what a group matched, and
`$$` stands for a dollar sign; a dollar sign that begins none of these stands for itself.
-/

set_option autoImplicit false

namespace PxeLaunch.Regex

/-- A part of a template. -/
inductive Piece where
  | char (c : Char)
  | group (index : Nat)
  | named (name : String)
  deriving Repr, DecidableEq

namespace Piece

/-- The letters of a group's name that is not in braces. -/
def isNameChar (c : Char) : Bool := c.isAlphanum || c = '_'

/-- The number that a name spells, if it fits 64 bits; a plus sign may stand before it. -/
def indexOf? (name : List Char) : Option Nat :=
  let digits := match name with
    | '+' :: rest => rest
    | _ => name
  if digits.isEmpty || !digits.all Char.isDigit then none
  else
    let n := digits.foldl (fun n c => n * 10 + (c.toNat - '0'.toNat)) 0
    if n < 0x10000000000000000 then some n else none

/-- A reference to a group by number or by name. -/
def ofName (name : List Char) : Piece :=
  match indexOf? name with
  | some n => .group n
  | none => .named (String.ofList name)

/-- The parts of a template; the fuel is its length. -/
def parseFrom : (fuel : Nat) → List Char → List Piece
  | _, [] => []
  | 0, _ :: _ => []
  | fuel + 1, c :: rest =>
    if c != '$' then .char c :: parseFrom fuel rest
    else match rest with
      | '$' :: after => .char '$' :: parseFrom fuel after
      | '\x7b' :: after =>
        match after.dropWhile (· != '\x7d') with
        | _ :: beyond => ofName (after.takeWhile (· != '\x7d')) :: parseFrom fuel beyond
        | [] => .char '$' :: parseFrom fuel rest
      | _ =>
        let name := rest.takeWhile isNameChar
        if name.isEmpty then .char '$' :: parseFrom fuel rest
        else ofName name :: parseFrom fuel (rest.drop name.length)

/-- The parts of a template. -/
def parse (template : String) : List Piece := parseFrom template.length template.toList

/-- What a part stands for after a match. -/
def expand (c : Captures) : Piece → Bytes
  | .char ch => String.utf8EncodeChar ch
  | .group index => c.group index
  | .named name => c.named name

end Piece

/-- What a template stands for after a match. -/
def Captures.expand (c : Captures) (template : String) : Bytes :=
  (Piece.parse template).flatMap (Piece.expand c)

end PxeLaunch.Regex

import PxeLaunch.Script.CharClass

/-!
Patterns for names and texts, in which a star stands for any text, a question mark for any character
and a set in brackets for one of some characters. Characters in quotes stand for themselves.
-/

set_option autoImplicit false

namespace PxeLaunch.Script

/-- A character, and whether it was in quotes. -/
abbrev Marked := Char × Bool

/-- What a text has to show at one place. -/
inductive Piece where
  | char (c : Char)
  | one
  | many
  | set (isIn : Char → Bool)

abbrev Pattern := List Piece

/-- Whether a piece stands for a character. -/
def Piece.admits : Piece → Char → Bool
  | .char d, c => c = d
  | .one, _ => true
  | .many, _ => true
  | .set isIn, c => isIn c

/-- Whether a text fits a pattern. -/
def Pattern.fits : Pattern → Chars → Bool
  | [], cs => cs.isEmpty
  | .many :: ps, [] => Pattern.fits ps []
  | .many :: ps, c :: cs => Pattern.fits ps (c :: cs) || Pattern.fits (.many :: ps) cs
  | _ :: _, [] => false
  | p :: ps, c :: cs => p.admits c && Pattern.fits ps cs
  termination_by ps cs => ps.length + cs.length

/-- The characters of a set up to its closing bracket, which does not count where it comes first. A
hyphen between two characters stands for those between them. -/
def setFrom (isFirst : Bool) (isIn : Char → Bool) : (fuel : Nat) → List Marked →
    Option ((Char → Bool) × List Marked)
  | 0, _ => none
  | _, [] => none
  | fuel + 1, (c, quoted) :: rest =>
    if c = ']' && !quoted && !isFirst then some (isIn, rest)
    else
      let named : Option ((Char → Bool) × List Marked) := match rest with
        | (':', false) :: after =>
          if c = '[' && !quoted then
            (namedClass? (after.map Prod.fst)).map fun (found, left) =>
              (found, after.drop (after.length - left.length))
          else none
        | _ => none
      match named, rest with
      | some (found, after), _ => setFrom false (fun d => isIn d || found d) fuel after
      | none, ('-', false) :: (e, ended) :: after =>
        if e = ']' && !ended then setFrom false (fun d => isIn d || d = c) fuel rest
        else setFrom false (fun d => isIn d || c ≤ d && d ≤ e) fuel after
      | none, _ => setFrom false (fun d => isIn d || d = c) fuel rest

/-- A set after its opening bracket, and what follows it. -/
def set? (ms : List Marked) : Option (Piece × List Marked) :=
  let (negated, body) := match ms with
    | ('!', false) :: rest => (true, rest)
    | _ => (false, ms)
  (setFrom true (fun _ => false) (body.length + 1) body).map fun (isIn, rest) =>
    (.set fun c => isIn c != negated, rest)

/-- The pattern that characters spell. A bracket that opens no set stands for itself. -/
def patternFrom (found : Pattern) : (fuel : Nat) → List Marked → Pattern
  | 0, _ => found.reverse
  | _, [] => found.reverse
  | fuel + 1, (c, quoted) :: rest =>
    if quoted then patternFrom (.char c :: found) fuel rest
    else if c = '*' then patternFrom (.many :: found) fuel rest
    else if c = '?' then patternFrom (.one :: found) fuel rest
    else if c = '\\' then
      match rest with
      | (d, _) :: after => patternFrom (.char d :: found) fuel after
      | [] => patternFrom (.char c :: found) fuel rest
    else if c = '[' then
      match set? rest with
      | some (piece, after) => patternFrom (piece :: found) fuel after
      | none => patternFrom (.char c :: found) fuel rest
    else patternFrom (.char c :: found) fuel rest

/-- The pattern that characters spell. -/
def Pattern.ofMarked (ms : List Marked) : Pattern := patternFrom [] (ms.length + 1) ms

/-- Whether characters may stand for something else than themselves. -/
def isPattern (ms : List Marked) : Bool :=
  ms.any fun (c, quoted) => !quoted && "*?[".toList.contains c

/-- The text without its shortest or longest end that fits a pattern. -/
def Pattern.trimEnd (p : Pattern) (longest : Bool) (text : Chars) : Chars :=
  let kept := (List.range (text.length + 1)).filter fun n => p.fits (text.drop n)
  match if longest then kept.head? else kept.getLast? with
  | some n => text.take n
  | none => text

/-- The text without its shortest or longest beginning that fits a pattern. -/
def Pattern.trimStart (p : Pattern) (longest : Bool) (text : Chars) : Chars :=
  let cut := (List.range (text.length + 1)).filter fun n => p.fits (text.take n)
  match if longest then cut.getLast? else cut.head? with
  | some n => text.drop n
  | none => text

end PxeLaunch.Script

import PxeLaunch.Script.Pattern

/-!
Regular expressions of the utilities that work on lines. Of the matches that begin first the longest
counts, and in it the parts that stand further left take as much as they can. There is a basic
dialect, in which operators need a backslash, and an extended one, in which they need none.
-/

set_option autoImplicit false

namespace PxeLaunch.Script.Regular

/-- A place between characters that something is known about. -/
inductive Edge where
  | textStart
  | textEnd
  | wordStart
  | wordEnd
  | wordEdge
  | noWordEdge

inductive Expression where
  | empty
  | one (isIn : Char → Bool)
  | at (edge : Edge)
  | group (number : Nat) (e : Expression)
  | both (a b : Expression)
  | either (a b : Expression)
  | many (least : Nat) (most : Option Nat) (e : Expression)
  | again (number : Nat)

/-- What is wrong with an expression. -/
inductive Flaw where
  | openBracket
  | openGroup
  | closedGroup
  | openBrace
  | badBrace
  | nothingBefore
  | badReference
  | badClass
  | lastBackslash

def Flaw.message : Flaw → String
  | .openBracket => "Invalid regular expression"
  | .openGroup => "Unmatched ( or \\("
  | .closedGroup => "Unmatched ) or \\)"
  | .openBrace => "Unmatched \\\x7b"
  | .badBrace => "Invalid content of \\\x7b\\\x7d"
  | .nothingBefore => "Invalid preceding regular expression"
  | .badReference => "Invalid back reference"
  | .badClass => "Invalid character class name"
  | .lastBackslash => "Trailing backslash"

/-! ### Reading -/

/-- What a backslash makes of the character after it: an edge or a class, a control character as
well, or a control character only, and then also in sets. -/
inductive Escapes where
  | edges
  | edgesAndControls
  | controls
  deriving DecidableEq

/-- How expressions are to be read: which dialect they are in, what backslashes mean, whether upper
and lower case are the same, and whether a closing parenthesis without an opening one stands for
itself. -/
structure Dialect where
  isExtended : Bool
  escapes : Escapes
  ignoresCase : Bool
  closesAlone : Bool

def isWordChar (c : Char) : Bool := c.isAlphanum || c = '_'

namespace Dialect

/-- The characters of a set, with both cases of letters if they are the same. -/
def widen (n : Dialect) (isIn : Char → Bool) : Char → Bool :=
  if n.ignoresCase then fun c => isIn c || isIn c.toLower || isIn c.toUpper else isIn

def char (n : Dialect) (c : Char) : Expression := .one (n.widen (· = c))

/-- The control character that a letter after a backslash stands for. -/
def control? (n : Dialect) (c : Char) : Option Char :=
  if n.escapes = .edges then none
  else match c with
    | 'n' => some '\n'
    | 't' => some '\t'
    | 'f' => some '\x0c'
    | 'v' => some '\x0b'
    | 'a' => some '\x07'
    | 'r' => some '\r'
    | _ => none

/-- Whether characters begin with an operator of the dialect. -/
def opens (n : Dialect) (operator : Char) (cs : Chars) : Bool :=
  match cs with
  | '\\' :: c :: _ => !n.isExtended && c = operator
  | c :: _ => n.isExtended && c = operator
  | [] => false

/-- The characters after an operator of the dialect. -/
def after (n : Dialect) (cs : Chars) : Chars := cs.drop (if n.isExtended then 1 else 2)

end Dialect

/-- The characters of a set in brackets up to its closing one. -/
def setFrom (n : Dialect) (isFirst : Bool) (isIn : Char → Bool) :
    (fuel : Nat) → Chars → Except Flaw ((Char → Bool) × Chars)
  | 0, _ => .error .openBracket
  | _, [] => .error .openBracket
  | fuel + 1, c :: rest =>
    if c = ']' && !isFirst then .ok (isIn, rest)
    else match c, rest with
      | '[', ':' :: name =>
        match namedClass? name with
        | some (found, after) => setFrom n false (fun d => isIn d || found d) fuel after
        | none => .error .badClass
      | _, _ =>
        let (c, rest) := match c, rest with
          | '\\', d :: after =>
            match n.control? d with
            | some e => (e, after)
            | none => if n.escapes = .controls then (d, after) else (c, rest)
          | _, _ => (c, rest)
        match rest with
        | '-' :: d :: after =>
          if d = ']' then setFrom n false (fun x => isIn x || x = c) fuel rest
          else setFrom n false (fun x => isIn x || c ≤ x && x ≤ d) fuel after
        | _ => setFrom n false (fun x => isIn x || x = c) fuel rest

/-- A set after its opening bracket. -/
def readSet (n : Dialect) (cs : Chars) : Except Flaw (Expression × Chars) := do
  let (negated, body) := match cs with
    | '^' :: rest => (true, rest)
    | _ => (false, cs)
  let (isIn, rest) ← setFrom n true (fun _ => false) (body.length + 1) body
  let isIn := n.widen isIn
  return (.one fun c => isIn c != negated, rest)

/-- Numbers in braces: the least and the greatest number of times. -/
def readBounds (n : Dialect) (cs : Chars) : Except Flaw (Nat × Option Nat × Chars) :=
  let number (cs : Chars) : Option Nat × Chars :=
    let digits := cs.takeWhile Char.isDigit
    (if digits.isEmpty then none
      else some (digits.foldl (fun n c => n * 10 + (c.toNat - '0'.toNat)) 0), cs.drop digits.length)
  let (least, rest) := number cs
  let (most, rest) := match rest with
    | ',' :: rest => number rest
    | _ => (least, rest)
  let hasComma := cs.contains ','
  if least.isNone && !hasComma then .error .badBrace
  else if n.opens '\x7d' rest then
    let tooFew : Bool := match most with
      | some m => m < least.getD 0
      | none => false
    if tooFew then .error .badBrace else .ok (least.getD 0, most, n.after rest)
  else .error (if rest.isEmpty then .openBrace else .badBrace)

/-- An expression with the operators after it that repeat it. -/
def repeated (n : Dialect) (e : Expression) : (fuel : Nat) → Chars →
    Except Flaw (Expression × Chars)
  | 0, cs => .ok (e, cs)
  | fuel + 1, cs =>
    if cs.head? = some '*' then repeated n (.many 0 none e) fuel (cs.drop 1)
    else if n.opens '+' cs then repeated n (.many 1 none e) fuel (n.after cs)
    else if n.opens '?' cs then repeated n (.many 0 (some 1) e) fuel (n.after cs)
    else if n.opens '\x7b' cs then
      match readBounds n (n.after cs) with
      | .ok (least, most, rest) => repeated n (.many least most e) fuel rest
      | .error flaw => if n.isExtended then .ok (e, cs) else .error flaw
    else .ok (e, cs)

/-- What has been read of an expression: it, what follows, and the number of its groups. -/
abbrev Result := Except Flaw (Expression × Chars × Nat)

/-- What a character after a backslash stands for, if it is no operator. -/
def escaped (n : Dialect) (groups : Nat) (c : Char) : Except Flaw Expression :=
  if n.escapes = .controls then .ok (n.char ((n.control? c).getD c))
  else match c with
  | 'w' => .ok (.one isWordChar)
  | 'W' => .ok (.one (!isWordChar ·))
  | 's' => .ok (.one isSpace)
  | 'S' => .ok (.one (!isSpace ·))
  | '<' => .ok (.at .wordStart)
  | '>' => .ok (.at .wordEnd)
  | 'b' => .ok (.at .wordEdge)
  | 'B' => .ok (.at .noWordEdge)
  | '\'' => .ok (.at .textEnd)
  | _ =>
    if c.toNat = 0x60 then .ok (.at .textStart)
    else if '1' ≤ c && c ≤ '9' then
      let number := c.toNat - '0'.toNat
      if number ≤ groups then .ok (.again number) else .error .badReference
    else .ok (n.char ((n.control? c).getD c))

/-- Whether a dollar sign before characters stands for the end. -/
def endsBranch (n : Dialect) (cs : Chars) : Bool :=
  n.isExtended || cs.isEmpty || n.opens ')' cs || n.opens '|' cs

/-- One thing that an operator can repeat. -/
def readAtom (n : Dialect) (alternatives : Nat → Chars → Result) (isFirst : Bool) (groups : Nat)
    (cs : Chars) : Result :=
  if n.opens '(' cs then do
    let number := groups + 1
    let (e, rest, groups) ← alternatives number (n.after cs)
    if n.opens ')' rest then return (.group number e, n.after rest, groups)
    else .error .openGroup
  else match cs with
    | [] => .ok (.empty, [], groups)
    | '[' :: rest => do
      let (e, rest) ← readSet n rest
      return (e, rest, groups)
    | '.' :: rest => .ok (.one fun _ => true, rest, groups)
    | '\\' :: c :: rest => do
      if isFirst && !n.isExtended && c = '\x7b' then .error .nothingBefore
      else return (← escaped n groups c, rest, groups)
    | ['\\'] => .error .lastBackslash
    | c :: rest =>
      if c = '^' && (n.isExtended || isFirst) then .ok (.at .textStart, rest, groups)
      else if c = '$' && endsBranch n rest then .ok (.at .textEnd, rest, groups)
      else .ok (n.char c, rest, groups)

/-- Things one after another, up to the end of a branch. -/
def readBranch (n : Dialect) (alternatives : Nat → Chars → Result) (isOutermost : Bool)
    (found : Expression) (isFirst : Bool) (groups : Nat) : (fuel : Nat) → Chars → Result
  | 0, cs => .ok (found, cs, groups)
  | fuel + 1, cs =>
    if cs.isEmpty || n.opens '|' cs then .ok (found, cs, groups)
    else if n.opens ')' cs && !(isOutermost && n.closesAlone) then .ok (found, cs, groups)
    else if n.isExtended && isFirst && "*+?".toList.any (cs.head? = some ·) then
      if n.escapes = .controls then .error .nothingBefore
      else readBranch n alternatives isOutermost found isFirst groups fuel (cs.drop 1)
    else do
      let (e, rest, groups) ← readAtom n alternatives isFirst groups cs
      let isEdge : Bool := match e with
        | .at .textStart => true
        | _ => false
      if isEdge then
        readBranch n alternatives isOutermost (.both found e) (!n.isExtended) groups fuel rest
      else
        let (e, rest) ← repeated n e rest.length rest
        readBranch n alternatives isOutermost (.both found e) false groups fuel rest

/-- Branches with bars between them. -/
def readAlternatives (n : Dialect) (isOutermost : Bool) : (fuel : Nat) → Nat → Chars → Result
  | 0, groups, cs => .ok (.empty, cs, groups)
  | fuel + 1, groups, cs => do
    let inner := readAlternatives n false fuel
    let (e, rest, groups) ←
      readBranch n inner isOutermost .empty true groups (cs.length + 1) cs
    if n.opens '|' rest then
      let (other, rest, groups) ← readAlternatives n isOutermost fuel groups (n.after rest)
      return (.either e other, rest, groups)
    else return (e, rest, groups)

/-- The expression that a text spells, and the number of its groups. -/
def read (n : Dialect) (cs : Chars) : Except Flaw (Expression × Nat) := do
  match ← readAlternatives n true (cs.length + 1) 0 cs with
  | (e, [], groups) => return (e, groups)
  | (_, _ :: _, _) => .error .closedGroup

/-! ### Matching -/

/-- A text that is searched. -/
structure Subject where
  chars : Array Char
  ignoresCase : Bool

/-- A place in a text, and what the groups have taken before it. -/
structure Spot where
  position : Nat
  groups : List (Nat × Nat × Nat)
  deriving DecidableEq

namespace Subject

def isWordAt (t : Subject) (i : Nat) : Bool := (t.chars[i]?).any isWordChar

def isWordBefore (t : Subject) (i : Nat) : Bool := 0 < i && t.isWordAt (i - 1)

/-- Whether something is true of a place. -/
def holds (t : Subject) (i : Nat) : Edge → Bool
  | .textStart => i = 0
  | .textEnd => i = t.chars.size
  | .wordStart => !t.isWordBefore i && t.isWordAt i
  | .wordEnd => t.isWordBefore i && !t.isWordAt i
  | .wordEdge => t.isWordBefore i != t.isWordAt i
  | .noWordEdge => t.isWordBefore i == t.isWordAt i

def between (t : Subject) (start stop : Nat) : Chars := (t.chars.extract start stop).toList

end Subject

/-- Spots without those that repeat the place of an earlier one, unless groups have to be told
apart. -/
def distinct (keepsGroups : Bool) (spots : List Spot) : List Spot :=
  (spots.foldl (fun found s =>
    if found.any fun f => f.position = s.position && (!keepsGroups || f.groups = s.groups) then
      found
    else s :: found) []).reverse

/-- Spots, those that come last in the text first. -/
def farthestFirst (spots : List Spot) : List Spot :=
  spots.mergeSort fun a b => b.position ≤ a.position

/-- The spots that some rounds of a step lead to. A round that takes nothing is the last. -/
def rounds (step : Spot → List Spot) (keepsGroups : Bool) (least : Nat) (most : Option Nat)
    (found : List Spot) : (fuel : Nat) → (round : Nat) → List Spot → List Spot
  | 0, _, _ => found
  | fuel + 1, round, spots =>
    let found := if least ≤ round then distinct keepsGroups (spots ++ found) else found
    let isLast : Bool := match most with
      | some m => m ≤ round
      | none => false
    if isLast || spots.isEmpty then found
    else
      let next := spots.flatMap fun s => (step s).filter fun t =>
        round < least || s.position < t.position
      rounds step keepsGroups least most found fuel (round + 1) (distinct keepsGroups next)

/-- The spots at which an expression can end that begins at one. -/
def Expression.ends (t : Subject) (keepsGroups : Bool) : Expression → Spot → List Spot
  | .empty, s => [s]
  | .one isIn, s =>
    match t.chars[s.position]? with
    | some c => if isIn c then [{ s with position := s.position + 1 }] else []
    | none => []
  | .at edge, s => if t.holds s.position edge then [s] else []
  | .group number e, s =>
    (e.ends t keepsGroups s).map fun f =>
      { f with groups := (number, s.position, f.position) :: f.groups }
  | .both a b, s =>
    distinct keepsGroups ((farthestFirst (a.ends t keepsGroups s)).flatMap (b.ends t keepsGroups))
  | .either a b, s => distinct keepsGroups (a.ends t keepsGroups s ++ b.ends t keepsGroups s)
  | .many least most e, s =>
    rounds (e.ends t keepsGroups) keepsGroups least most [] (t.chars.size + least + 2) 0 [s]
  | .again number, s =>
    match s.groups.lookup number with
    | some (start, stop) =>
      let taken := t.between start stop
      let next := t.between s.position (s.position + taken.length)
      let lower (cs : Chars) : Chars := if t.ignoresCase then cs.map Char.toLower else cs
      if lower taken = lower next then [{ s with position := s.position + taken.length }] else []
    | none => []

/-- Whether an expression refers to its groups. -/
def Expression.refers : Expression → Bool
  | .again _ => true
  | .group _ e => e.refers
  | .both a b => a.refers || b.refers
  | .either a b => a.refers || b.refers
  | .many _ _ e => e.refers
  | _ => false

/-- An expression that is ready to be searched for. -/
structure Search where
  expression : Expression
  groups : Nat
  ignoresCase : Bool
  refers : Bool

def Search.ofText (n : Dialect) (cs : Chars) : Except Flaw Search := do
  let (e, groups) ← read n cs
  return ⟨e, groups, n.ignoresCase, e.refers⟩

/-- A match: where it starts and stops, and what its groups took. -/
structure Match where
  start : Nat
  stop : Nat
  groups : List (Nat × Nat × Nat)

/-- What a group took; the whole match has the number zero. -/
def Match.group (m : Match) (t : Subject) (number : Nat) : Chars :=
  if number = 0 then t.between m.start m.stop
  else match m.groups.lookup number with
    | some (start, stop) => t.between start stop
    | none => []

/-- The longest match that begins at a place and is as it should be. -/
def Search.at? (r : Search) (t : Subject) (isWanted : Match → Bool) (start : Nat) :
    Option Match :=
  ((farthestFirst (r.expression.ends t r.refers ⟨start, []⟩)).map fun s =>
    (⟨start, s.position, s.groups⟩ : Match)).find? isWanted

/-- The first match from a place on that is as it should be. -/
def Search.findFrom (r : Search) (t : Subject) (isWanted : Match → Bool) :
    (fuel : Nat) → (start : Nat) → Option Match
  | 0, _ => none
  | fuel + 1, start =>
    if t.chars.size < start then none
    else match r.at? t isWanted start with
      | some m => some m
      | none => r.findFrom t isWanted fuel (start + 1)

def Search.subject (r : Search) (cs : Chars) : Subject := ⟨cs.toArray, r.ignoresCase⟩

/-- The first match from a place on. -/
def Search.find? (r : Search) (t : Subject) (start : Nat) : Option Match :=
  r.findFrom t (fun _ => true) (t.chars.size + 1 - start) start

/-- The matches one after another. An empty one does not count where the one before it stops. -/
def Search.allFrom (r : Search) (t : Subject) (isWanted : Match → Bool) (last : Option Nat) :
    (fuel : Nat) → (start : Nat) → List Match
  | 0, _ => []
  | fuel + 1, start =>
    let counts (m : Match) : Bool := isWanted m && (m.start < m.stop || last != some m.start)
    match r.findFrom t counts (t.chars.size + 1 - start) start with
    | some m =>
      let next := if m.start < m.stop then m.stop else m.stop + 1
      m :: r.allFrom t isWanted (some m.stop) fuel next
    | none => []

/-- All matches that are as they should be. -/
def Search.all (r : Search) (t : Subject) (isWanted : Match → Bool) : List Match :=
  r.allFrom t isWanted none (t.chars.size + 2) 0

/-- Whether a text has a match. -/
def Search.holds (r : Search) (cs : Chars) : Bool := (r.find? (r.subject cs) 0).isSome

end PxeLaunch.Script.Regular

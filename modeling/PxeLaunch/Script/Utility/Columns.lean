import PxeLaunch.Script.Format
import PxeLaunch.Script.Utility.Input

/-!
Utilities that take lines or texts apart by characters: selected columns, and characters in the
place of others.
-/

set_option autoImplicit false

namespace PxeLaunch.Script

/-! ### Columns -/

/-- From one column to another, both included. -/
abbrev ColumnRange := Nat × Option Nat

/-- Why a list of columns is none. -/
inductive ColumnFault where
  | zero
  | decreasing
  | noNumber (cs : Chars)
  | empty

/-- A range as it is written. -/
def columnRange (cs : Chars) : Except ColumnFault ColumnRange :=
  let first := cs.takeWhile (· != '-')
  let number (ds : Chars) : Except ColumnFault Nat :=
    if ds.all Char.isDigit && !ds.isEmpty then
      if natOf 10 ds = 0 then .error .zero else .ok (natOf 10 ds)
    else .error (.noNumber ds)
  if first.length = cs.length then do
    let n ← number cs
    return (n, some n)
  else
    let last := cs.drop (first.length + 1)
    if first.isEmpty && last.isEmpty then .error .empty
    else do
      let a ← if first.isEmpty then pure 1 else number first
      if last.isEmpty then return (a, none)
      else
        let b ← number last
        if b < a then .error .decreasing else return (a, some b)

/-- The ranges of a list, in which commas or blanks stand between them. -/
def columnRanges (cs : Chars) : Except ColumnFault (List ColumnRange) :=
  ((cs.map fun c => if isBlank c then ',' else c).splitOn ',').mapM columnRange

def inRange (n : Nat) (r : ColumnRange) : Bool := r.1 ≤ n && r.2.all (n ≤ ·)

/-- Which columns are shown, and how. -/
structure Selection where
  ranges : List ColumnRange
  complement : Bool
  delimiter : Char
  gap : Option Chars
  onlyDelimited : Bool

def Selection.has (c : Selection) (n : Nat) : Bool := c.ranges.any (inRange n) != c.complement

/-- The selected fields of a line. -/
def Selection.fields (c : Selection) (line : Chars) : Option Chars :=
  let fields := line.splitOn c.delimiter
  if fields.length = 1 then if c.onlyDelimited then none else some line
  else
    let kept := fields.zipIdx.filterMap fun (f, i) => if c.has (i + 1) then some f else none
    some ((c.gap.getD [c.delimiter]).intercalate kept)

/-- The selected characters of a line. A gap is shown only between ranges. -/
def Selection.chars (c : Selection) (cs : Chars) : Chars :=
  let places := (List.range cs.length).filter fun i => c.has (i + 1)
  let runs := places.splitBy fun i j =>
    j = i + 1 && !c.ranges.any fun r => r.1 = j + 1 && !c.complement &&
      !c.ranges.any fun q => inRange (i + 1) q && inRange (j + 1) q
  let shown := runs.map fun run => run.filterMap fun i => cs[i]?
  match c.gap with
  | some gap => gap.intercalate shown
  | none => shown.flatten

def cutLines : Utility :=
  withOptions "cut" ⟨"snz", "bcfdO", [("delimiter", 'd'), ("fields", 'f'), ("bytes", 'b'),
    ("characters", 'c'), ("only-delimited", 's'), ("output-delimiter", 'O'),
    ("complement", 'n')], true⟩ 1 fun g s =>
    let refuse (text : Chars) : Shell := pointToHelp "cut" 1 (blame "cut" text 1 s)
    let delimiter := (g.value? 'd').getD ['\t']
    match g.options.filter fun o => "bcf".toList.contains o.1 with
    | [] => refuse "you must specify a list of bytes, characters, or fields".toList
    | _ :: _ :: _ => refuse "only one list may be specified".toList
    | [(letter, list)] =>
      if 1 < delimiter.length then refuse "the delimiter must be a single character".toList
      else
        let isField := letter = 'f'
        match columnRanges list with
        | .error .zero =>
          refuse (if isField then "fields are numbered from 1".toList
            else "byte/character positions are numbered from 1".toList)
        | .error .decreasing => refuse "invalid decreasing range".toList
        | .error .empty => refuse "invalid range with no endpoint: -".toList
        | .error (.noNumber cs) =>
          let what := if isField then "field value " else "byte/character position "
          refuse ("invalid ".toList ++ what.toList ++ quotedName cs)
        | .ok ranges =>
          let c : Selection := ⟨ranges, g.has 'n', delimiter.headD (Char.ofNat 0), g.value? 'O',
            g.has 's'⟩
          let (inputs, s) := s.inputs (.quoting "cut" 1) g.operands
          let lines := bareLines (inputs.flatMap (·.content))
          s.put (unlines (if isField then lines.filterMap c.fields else lines.map c.chars))

/-! ### Characters in the place of others -/

/-- A piece of a set of characters. -/
inductive SetPiece where
  | chars (cs : Chars)
  | upper
  | lower
  | fill (c : Char) (count : Option Nat)

/-- Why a set is none. -/
inductive SetFault where
  | reversed (a b : Char)
  | noClass (name : Chars)

/-- A character of a set, and what follows it. -/
def setChar : Chars → Option (Char × Chars)
  | '\\' :: rest =>
    match escape false rest with
    | ([c], after) => if c = '\\' then some (c, rest.drop 1) else some (c, after)
    | _ => none
  | c :: rest => some (c, rest)
  | [] => none

/-- All characters, in their order. -/
def allChars : Chars := (List.range 256).map Char.ofNat

/-- The pieces of a set. -/
def setPieces (found : List SetPiece) : (fuel : Nat) → Chars → Except SetFault (List SetPiece)
  | 0, _ => .ok found.reverse
  | _, [] => .ok found.reverse
  | fuel + 1, '[' :: ':' :: rest =>
    let name := rest.takeWhile (· != ':')
    match rest.drop name.length with
    | ':' :: ']' :: after =>
      match String.ofList name, charClass? name with
      | "upper", _ => setPieces (.upper :: found) fuel after
      | "lower", _ => setPieces (.lower :: found) fuel after
      | _, some isIn => setPieces (.chars (allChars.filter isIn) :: found) fuel after
      | _, none => .error (.noClass name)
    | _ => setPieces (.chars ['[', ':'] :: found) fuel rest
  | fuel + 1, '[' :: '=' :: c :: '=' :: ']' :: rest => setPieces (.chars [c] :: found) fuel rest
  | fuel + 1, cs =>
    let filled : Option (SetPiece × Chars) := match cs with
      | '[' :: rest => (setChar rest).bind fun (c, rest) => match rest with
        | '*' :: rest =>
          let digits := rest.takeWhile Char.isDigit
          match rest.drop digits.length with
          | ']' :: after =>
            let base := if digits.head? = some '0' then 8 else 10
            some (.fill c (if digits.isEmpty then none else some (natOf base digits)), after)
          | _ => none
        | _ => none
      | _ => none
    match filled, setChar cs with
    | some (piece, rest), _ => setPieces (piece :: found) fuel rest
    | none, none => .ok found.reverse
    | none, some (a, '-' :: rest) =>
      match setChar rest with
      | some (b, after) =>
        if b < a then .error (.reversed a b)
        else
          let between := (List.range (b.toNat + 1 - a.toNat)).map fun i => Char.ofNat (a.toNat + i)
          setPieces (.chars between :: found) fuel after
      | none => setPieces (.chars ['-'] :: .chars [a] :: found) fuel rest
    | none, some (a, rest) => setPieces (.chars [a] :: found) fuel rest

/-- The characters of pieces. A piece that fills up takes what is missing of some length. -/
def charsOfPieces (length : Nat) (pieces : List SetPiece) : Chars :=
  let size : SetPiece → Nat
    | .chars cs => cs.length
    | .upper => 26
    | .lower => 26
    | .fill _ count => count.getD 0
  let known := (pieces.map size).foldl (· + ·) 0
  pieces.flatMap fun
    | .chars cs => cs
    | .upper => allChars.filter Char.isUpper
    | .lower => allChars.filter Char.isLower
    | .fill c count => List.replicate (match count with
      | some n => if n = 0 then length - known else n
      | none => length - known) c

/-- A text in which neighbours from a set that are the same stand only once. -/
def squeezed (isIn : Char → Bool) : Chars → Chars
  | a :: b :: rest =>
    if a = b && isIn a then squeezed isIn (b :: rest) else a :: squeezed isIn (b :: rest)
  | cs => cs

/-- What characters become that stand in one set, by their place in the other. The last of these
serves for those that have no counterpart. -/
def substitute (source target : Chars) (c : Char) : Char :=
  match source.reverse.findIdx? (· == c) with
  | some i => (target[source.length - 1 - i]?).getD (target.getLastD c)
  | none => c

def translate : Utility :=
  withOptions "tr" ⟨"cCdst", "", [("delete", 'd'), ("complement", 'c'), ("squeeze-repeats", 's'),
    ("truncate-set1", 't')], false⟩ 1 fun g s =>
    let deletes := g.has 'd'
    let squeezes := g.has 's'
    let complements := g.has 'c' || g.has 'C'
    let one := deletes && !squeezes
    let sets := g.operands.mapM fun cs => setPieces [] (cs.length + 1) cs
    match g.operands, sets with
    | _, .error (.reversed a b) =>
      blame "tr" ("range-endpoints of ".toList ++ quotedName [a, '-', b] ++
        " are in reverse collating sequence order".toList) 1 s
    | _, .error (.noClass name) =>
      blame "tr" ("invalid character class ".toList ++ quotedName name) 1 s
    | [], _ => missingOperand "tr" 1 s
    | [a], .ok [pieces] =>
      if (deletes && squeezes) || !(deletes || squeezes) then
        let why := if deletes then
          "Two strings must be given when both deleting and squeezing repeats."
          else "Two strings must be given when translating."
        let missing := "missing operand after ".toList ++ quotedName a
        pointToHelp "tr" 1 ((blame "tr" missing 1 s).complain why.toList 1)
      else
        let set := charsOfPieces 0 pieces
        let isIn (c : Char) : Bool := set.contains c != complements
        let (input, s) := s.readStdin
        (s.put (if deletes then input.filter (!isIn ·) else squeezed isIn input)).answer 0
    | [_, b], .ok [first, second] =>
      if one then
        pointToHelp "tr" 1 ((blame "tr" ("extra operand ".toList ++ quotedName b) 1 s).complain
          "Only one string may be given when deleting without squeezing repeats.".toList 1)
      else
        let source := charsOfPieces 0 first
        let source := if complements then allChars.filter (!source.contains ·) else source
        let target := charsOfPieces source.length second
        if deletes then
          let (input, s) := s.readStdin
          (s.put (squeezed target.contains (input.filter (!source.contains ·)))).answer 0
        else if target.isEmpty && !g.has 't' then
          blame "tr" "when not truncating set1, string2 must be non-empty".toList 1 s
        else
          let source := if g.has 't' then source.take target.length else source
          let (input, s) := s.readStdin
          let shown := input.map (substitute source target)
          (s.put (if squeezes then squeezed target.contains shown else shown)).answer 0
    | _, .ok _ => extraOperand "tr" ((g.operands.drop 2).headD []) s

end PxeLaunch.Script

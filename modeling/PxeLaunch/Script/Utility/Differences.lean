import PxeLaunch.Script.Utility.Input

/-!
Utilities that compare two files: byte by byte, and line by line with as few changes as possible.
-/

set_option autoImplicit false

namespace PxeLaunch.Script

/-! ### Bytes -/

/-- The place and the line of the first difference of two texts that are as long as they have to
be. -/
def firstDifference (place line : Nat) : Chars → Chars → Option (Nat × Nat)
  | a :: as, b :: bs =>
    if a = b then firstDifference (place + 1) (if a = '\n' then line + 1 else line) as bs
    else some (place, line)
  | _, _ => none

def compareBytes : Utility :=
  withOptions "cmp" ⟨"slb", "n", [("silent", 's'), ("quiet", 's'), ("verbose", 'l'),
    ("print-bytes", 'b'), ("bytes", 'n')], true⟩ 2 fun g s =>
    match g.operands with
    | [] => pointToHelp "cmp" 2 (s.complain "cmp: missing operand after 'cmp'".toList 2)
    | a :: rest =>
      let b := rest.headD ['-']
      let r : Refusals := .plain "cmp" 2
      let silent := g.has 's'
      let (xs, t) := s.inputs r [a]
      let (ys, t) := if xs.isEmpty then (([] : List Input), t) else t.inputs r [b]
      match xs, ys with
      | [x], [y] =>
        let limit := ((g.value? 'n').bind sizeOf?).getD (x.content.length + y.content.length)
        let as := x.content.take limit
        let bs := y.content.take limit
        let ends (p : Chars) (cs : Chars) : Chars :=
          let lines := cs.count '\n'
          "cmp: EOF on ".toList ++ p ++
            if cs.isEmpty then " which is empty".toList
            else
              let ended := cs.getLast? = some '\n'
              " after byte ".toList ++ natText cs.length ++
                if g.has 'l' then []
                else if ended then ", line ".toList ++ natText lines
                else ", in line ".toList ++ natText (lines + 1)
        let differ := (as.zip bs).zipIdx.filter fun ((c, d), _) => c != d
        if g.has 'l' then
          let shown := differ.flatMap fun ((c, d), i) =>
            let octal (c : Char) : Chars := alignRight 3 (Nat.toDigits 8 c.toNat)
            alignRight (natText (max as.length bs.length)).length (natText (i + 1)) ++
              ' ' :: octal c ++ ' ' :: octal d ++ ['\n']
          let t := (t.put shown).answer (if differ.isEmpty then 0 else 1)
          if as.length < bs.length then t.complain (ends a as) 1
          else if bs.length < as.length then t.complain (ends b bs) 1
          else t
        else match firstDifference 1 1 as bs with
          | some (place, line) =>
            if silent then t.answer 1
            else
              (t.put (a ++ ' ' :: b ++ " differ: char ".toList ++ natText place ++
                ", line ".toList ++ natText line ++ ['\n'])).answer 1
          | none =>
            if as.length = bs.length then t.answer 0
            else if silent then t.answer 1
            else if as.length < bs.length then t.complain (ends a as) 1
            else t.complain (ends b bs) 1
      | _, _ => if silent then s.answer 2 else t

/-! ### Lines -/

/-- What becomes of a line. -/
inductive LineChange where
  | kept (line : Chars)
  | removed (line : Chars)
  | added (line : Chars)

def LineChange.isKept : LineChange → Bool
  | .kept _ => true
  | _ => false

/-- The lengths of the longest common parts of a line's rest and the rests of others, from the
lengths for the rest below it. -/
def commonRow (same : Chars → Chars → Bool) (a : Chars) : List Chars → List Nat → List Nat
  | b :: bs, below :: rest =>
    let row := commonRow same a bs rest
    let here := if same a b then (rest.headD 0) + 1 else max below (row.headD 0)
    here :: row
  | _, _ => [0]

/-- The rows of the lengths of common parts. -/
def commonRows (same : Chars → Chars → Bool) (bs : List Chars) : List Chars → List (List Nat)
  | [] => [List.replicate (bs.length + 1) 0]
  | a :: as =>
    let rows := commonRows same bs as
    commonRow same a bs (rows.headD []) :: rows

/-- The changes that lead from lines to others, with as many kept as can be. -/
def changesFrom (same : Chars → Chars → Bool) : (fuel : Nat) → List Chars → List Chars →
    List (List Nat) → List LineChange
  | 0, _, _, _ => []
  | _, [], bs, _ => bs.map .added
  | _, as, [], _ => as.map .removed
  | fuel + 1, a :: as, b :: bs, rows =>
    let below := rows.drop 1
    if same a b then .kept a :: changesFrom same fuel as bs (below.map (List.drop 1))
    else
      let down := (below.headD []).headD 0
      let right := ((rows.headD []).drop 1).headD 0
      if right ≤ down then .removed a :: changesFrom same fuel as (b :: bs) below
      else .added b :: changesFrom same fuel (a :: as) bs (rows.map (List.drop 1))

def changesOf (same : Chars → Chars → Bool) (as bs : List Chars) : List LineChange :=
  changesFrom same (as.length + bs.length + 1) as bs (commonRows same bs as)

/-- A block of changes: where it stands in both files, and the lines that go and come. -/
structure LineBlock where
  left : Nat
  right : Nat
  removed : List Chars
  added : List Chars

/-- The blocks of changes, from some places on. -/
def blocksFrom (left right : Nat) (block : LineBlock) : List LineChange → List LineBlock
  | [] => if block.removed.isEmpty && block.added.isEmpty then [] else [block]
  | .removed line :: rest =>
    blocksFrom (left + 1) right { block with removed := block.removed ++ [line] } rest
  | .added line :: rest =>
    blocksFrom left (right + 1) { block with added := block.added ++ [line] } rest
  | .kept _ :: rest =>
    let others := blocksFrom (left + 1) (right + 1) ⟨left + 1, right + 1, [], []⟩ rest
    if block.removed.isEmpty && block.added.isEmpty then others else block :: others

/-- A line with a mark before it, and a remark if it has no end. -/
def markedLine (mark : Chars) (line : Chars) : Chars :=
  mark ++ if line.getLast? = some '\n' then line
    else line ++ "\n\\ No newline at end of file\n".toList

/-- The numbers of lines that stand one below the other. -/
def lineSpan (start count : Nat) : Chars :=
  if count ≤ 1 then natText (start + count) else
    natText (start + 1) ++ ',' :: natText (start + count)

/-- A block as it is shown without the lines around it. -/
def LineBlock.shown (b : LineBlock) : Chars :=
  let letter := if b.removed.isEmpty then 'a' else if b.added.isEmpty then 'd' else 'c'
  let head := lineSpan b.left b.removed.length ++
    letter :: lineSpan b.right b.added.length ++ ['\n']
  let between := if letter = 'c' then "---\n".toList else []
  head ++ b.removed.flatMap (markedLine "< ".toList) ++ between ++
    b.added.flatMap (markedLine "> ".toList)

/-- Blocks that are so near to each other that they share the lines around them. -/
def nearBlocks (context : Nat) : List LineBlock → List (List LineBlock)
  | [] => []
  | b :: rest =>
    match nearBlocks context rest with
    | (c :: group) :: groups =>
      if c.left ≤ b.left + b.removed.length + 2 * context then (b :: c :: group) :: groups
      else [b] :: (c :: group) :: groups
    | groups => [b] :: groups

/-- A group of blocks with the lines around them. -/
def unifiedGroup (context : Nat) (as : List Chars) (blocks : List LineBlock) : Chars :=
  match blocks, blocks.getLast? with
  | first :: _, some last =>
    let lead := min context first.left
    let start := first.left - lead
    let stop := min as.length (last.left + last.removed.length + context)
    let gained : Nat := (blocks.map (·.added.length)).foldl (· + ·) 0
    let lost : Nat := (blocks.map (·.removed.length)).foldl (· + ·) 0
    let range (start count : Nat) : Chars :=
      if count = 1 then natText (start + 1)
      else natText (if count = 0 then start else start + 1) ++ ',' :: natText count
    let count := stop - start
    let head := "@@ -".toList ++ range start count ++ " +".toList ++
      range (first.right - lead) (count + gained - lost) ++ " @@\n".toList
    let (body, place) := blocks.foldl (fun (body, place) b =>
      (body ++ ((as.take b.left).drop place).flatMap (markedLine [' ']) ++
        b.removed.flatMap (markedLine ['-']) ++ b.added.flatMap (markedLine ['+']),
        b.left + b.removed.length)) (([] : Chars), start)
    head ++ body ++ ((as.take stop).drop place).flatMap (markedLine [' '])
  | _, _ => []

/-- A line as it counts in a comparison. -/
def comparedLine (g : Given) (line : Chars) : Chars :=
  let line := if g.has 'i' then line.map Char.toLower else line
  if g.has 'w' then line.filter (!isSpace ·)
  else if g.has 'b' then
    let words := (chomped line).splitBy fun a b => isBlank a == isBlank b
    let line := words.flatMap fun word => if word.all isBlank then [' '] else word
    (line.reverse.dropWhile isBlank).reverse
  else line

def showDifferences : Utility :=
  withOptions "diff" ⟨"quisbwBarN", "U", [("brief", 'q'), ("unified", 'u'),
    ("report-identical-files", 's'), ("ignore-case", 'i'), ("ignore-all-space", 'w'),
    ("ignore-space-change", 'b'), ("text", 'a'), ("recursive", 'r'), ("new-file", 'N')], true⟩ 2
    fun g s =>
    let help (s : Shell) : Shell :=
      s.complain "diff: Try 'diff --help' for more information.".toList 2
    match g.operands with
    | [a, b] =>
      let r : Refusals := .plain "diff" 2
      let (xs, t) := s.inputs r [a]
      let failed := t.status
      let (ys, t) := t.inputs r [b]
      match xs, ys with
      | [x], [y] =>
        let same (c d : Chars) : Bool := comparedLine g c = comparedLine g d
        let as := linesOf x.content
        let blocks := blocksFrom 0 0 ⟨0, 0, [], []⟩ (changesOf same as (linesOf y.content))
        if blocks.isEmpty then
          let t := if g.has 's' then t.put ("Files ".toList ++ a ++ " and ".toList ++ b ++
            " are identical\n".toList) else t
          t.answer 0
        else if g.has 'q' then
          (t.put ("Files ".toList ++ a ++ " and ".toList ++ b ++ " differ\n".toList)).answer 1
        else if g.has 'u' || g.has 'U' then
          let context := ((g.value? 'U').map (natOf 10)).getD 3
          let title (mark : String) (p : Chars) : Chars :=
            mark.toList ++ p ++ "\t1970-01-01 00:00:00.000000000 +0000\n".toList
          (t.put (title "--- " a ++ title "+++ " b ++
            (nearBlocks context blocks).flatMap (unifiedGroup context as))).answer 1
        else (t.put (blocks.flatMap LineBlock.shown)).answer 1
      | _, _ => t.answer (max failed t.status)
    | [] => help (blame "diff" "missing operand after 'diff'".toList 2 s)
    | [a] => help (blame "diff" ("missing operand after ".toList ++ quotedName a) 2 s)
    | _ :: _ :: c :: _ => help (blame "diff" ("extra operand ".toList ++ quotedName c) 2 s)

end PxeLaunch.Script

import PxeLaunch.Script.Regular
import PxeLaunch.Script.Utility.Input

/-!
Searching lines for expressions.
-/

set_option autoImplicit false

namespace PxeLaunch.Script

open Regular (Expression Dialect Match Subject)

/-- What is searched for and how, and what is shown of it. -/
structure LineSearch where
  search : Regular.Search
  words : Bool
  whole : Bool
  inverted : Bool
  most : Option Nat
  before : Nat
  after : Nat
  numbers : Bool
  names : Bool
  offsets : Bool
  onlyMatches : Bool

namespace LineSearch

/-- Whether a match counts: it may have to stand between words, or to be the whole line. -/
def counts (l : LineSearch) (t : Subject) (m : Match) : Bool :=
  (!l.words || !t.isWordBefore m.start && !t.isWordAt m.stop) &&
    (!l.whole || m.start = 0 && m.stop = t.chars.size)

/-- Whether a line is one of those that are looked for. -/
def selects (l : LineSearch) (line : Chars) : Bool :=
  let t := l.search.subject line
  (l.search.findFrom t (l.counts t) (t.chars.size + 1) 0).isSome != l.inverted

/-- Selected lines with their places, up to the greatest number of them. -/
def selected (l : LineSearch) (lines : List Chars) : List Nat :=
  let places := lines.zipIdx.filterMap fun (line, i) => if l.selects line then some i else none
  (l.most.map places.take).getD places

/-- What stands before a line. -/
def lead (l : LineSearch) (name : Chars) (sign : Char) (i offset : Nat) : Chars :=
  (if l.names then name ++ [sign] else []) ++
    (if l.numbers then natText (i + 1) ++ [sign] else []) ++
    (if l.offsets then natText offset ++ [sign] else [])

/-- The matches in a line, each on a line of its own. -/
def matchLines (l : LineSearch) (name line : Chars) (i offset : Nat) : Chars :=
  if l.inverted then []
  else
    let t := l.search.subject line
    (l.search.all t (l.counts t)).flatMap fun m =>
      if m.start = m.stop then []
      else l.lead name ':' i (offset + m.start) ++ m.group t 0 ++ ['\n']

/-- The selected lines of a file with those around them. Between lines that do not follow one
another stands a mark, if lines around are asked for. -/
def shownLines (l : LineSearch) (isFirst : Bool) (name : Chars) (lines : List Chars) : Chars :=
  let hits := l.selected lines
  let limit := match l.most, hits.getLast? with
    | some n, some last => if hits.length = n then last + l.after + 1 else lines.length
    | _, _ => lines.length
  let near (i : Nat) : Bool := i < limit && hits.any fun h => h ≤ i + l.before && i ≤ h + l.after
  let context := l.before + l.after != 0
  let (shown, _, _) := lines.zipIdx.foldl (fun (shown, last, offset) (line, i) =>
    let next := offset + line.length + 1
    let isHit := hits.contains i
    if !(isHit || near i) then (shown, last, next)
    else
      let isGap : Bool := match last with
        | some j => j + 1 < i
        | none => !isFirst
      let mark := if context && isGap && !l.onlyMatches then "--\n".toList else []
      let text :=
        if l.onlyMatches then if isHit then l.matchLines name line i offset else []
        else l.lead name (if isHit then ':' else '-') i offset ++ line ++ ['\n']
      (shown ++ mark ++ text, some i, next)) (([] : Chars), (none : Option Nat), 0)
  shown

end LineSearch

/-- The files below a folder, in the order of their names, and those that stand for themselves. -/
def filesBelow (s : Shell) : (fuel : Nat) → Chars → List Chars
  | 0, _ => []
  | fuel + 1, path =>
    let place := Shell.pathOf (if path.isEmpty then ['.'] else path)
    if s.files.isFolder place then
      let names := ((s.files.list place).toOption.getD []).mergeSort fun a b => !Bytes.before b a
      let lead := if path.isEmpty || path.getLast? = some '/' then path else path ++ ['/']
      names.flatMap fun name => filesBelow s fuel (lead ++ Chars.ofBytes name)
    else [path]

/-- How deep folders are searched. -/
def folderDepth : Nat := 64

/-- The expression that stands for any of some texts. -/
def anyOf (n : Dialect) (fixed : Bool) (texts : List Chars) :
    Except Regular.Flaw Regular.Search := do
  let searches ← texts.mapM fun text =>
    if fixed then
      pure ⟨text.foldr (fun c e => .both (n.char c) e) .empty, 0, n.ignoresCase, false⟩
    else Regular.Search.ofText n text
  match searches with
  | [] => return ⟨.one fun _ => false, 0, false, false⟩
  | first :: others => return others.foldl (fun all r =>
      ⟨.either all.expression r.expression, 0, n.ignoresCase, all.refers || r.refers⟩) first

/-- The texts that are searched for, and the operands that name files. -/
def searchTexts (g : Given) (s : Shell) : Except Shell (List Chars × List Chars × Shell) :=
  let lists := (g.values 'e').map fun t => t.splitOn '\n'
  let files := g.values 'f'
  let (fromFiles, t) := s.inputs (.plain "grep" 2) (if files.isEmpty then ["/dev/null".toList]
    else files)
  let texts := lists.flatten ++ fromFiles.flatMap fun input => bareLines input.content
  if t.status != 0 then .error t
  else if g.has 'e' || g.has 'f' then .ok (texts, g.operands, t)
  else match g.operands with
    | [] => .error (pointToHelp "grep" 2
        (s.complain "Usage: grep [OPTION]... PATTERNS [FILE]...".toList 2))
    | pattern :: paths => .ok (pattern.splitOn '\n', paths, t)

/-- Searches one input and says whether anything was found. -/
def searchInput (g : Given) (l : LineSearch) (isFirst : Bool) (input : Input) (s : Shell) :
    Bool × Shell :=
  let lines := bareLines input.content
  let name := if input.name = ['-'] then "(standard input)".toList else input.name
  let hits := l.selected lines
  let found := !hits.isEmpty
  let lead := if l.names then name ++ [':'] else []
  let isBinary := input.content.contains (Char.ofNat 0) && !g.has 'a'
  if g.has 'q' then (found, s)
  else if g.has 'L' then (found, if found then s else s.put (name ++ ['\n']))
  else if g.has 'l' then (found, if found then s.put (name ++ ['\n']) else s)
  else if g.has 'c' then (found, s.put (lead ++ natText hits.length ++ ['\n']))
  else if isBinary && found then
    (found, s.put ("grep: ".toList ++ name ++ ": binary file matches\n".toList))
  else (found, s.put (l.shownLines isFirst name lines))

def searchLines (fixed extended : Bool) : Utility := fun args s =>
  let args := args.map fun
    | '-' :: c :: cs => if c.isDigit then '-' :: 'C' :: c :: cs else '-' :: c :: cs
    | arg => arg
  let o : Options := ⟨"abchilnoqrsvwxyzEFGHILPRTU", "efmABCXYD", [("regexp", 'e'), ("file", 'f'),
    ("ignore-case", 'i'), ("invert-match", 'v'), ("count", 'c'), ("line-number", 'n'),
    ("files-with-matches", 'l'), ("files-without-match", 'L'), ("only-matching", 'o'),
    ("quiet", 'q'), ("silent", 'q'), ("no-messages", 's'), ("word-regexp", 'w'),
    ("line-regexp", 'x'), ("extended-regexp", 'E'), ("fixed-strings", 'F'),
    ("basic-regexp", 'G'), ("no-filename", 'h'), ("with-filename", 'H'), ("max-count", 'm'),
    ("after-context", 'A'), ("before-context", 'B'), ("context", 'C'), ("recursive", 'r'),
    ("text", 'a'), ("byte-offset", 'b'), ("include", 'X'), ("exclude", 'Y'), ("color", 'U'),
    ("colour", 'U'), ("line-buffered", 'U'), ("perl-regexp", 'P')], true⟩
  let args := args.filter fun a => !"--color".toList.isPrefixOf a && !"--colour".toList.isPrefixOf a
  match o.read args with
  | .error fault =>
    pointToHelp "grep" 2 ((blame "grep" fault.message 2 s).complain
      "Usage: grep [OPTION]... PATTERNS [FILE]...".toList 2)
  | .ok g =>
    match searchTexts g s with
    | .error s => s
    | .ok (texts, paths, s) =>
      let kind := g.last? "EFGP"
      let n : Dialect := ⟨(kind.map fun c => c = 'E' || c = 'P').getD extended, .edges,
        g.has 'i' || g.has 'y', true⟩
      match anyOf n ((kind.map (· == 'F')).getD fixed) texts with
      | .error flaw => blame "grep" flaw.message.toList 2 s
      | .ok search =>
        let recurses := g.has 'r' || g.has 'R'
        let number (c : Char) : Option Nat := (g.value? c).map (natOf 10)
        let around := (number 'C').getD 0
        let names := !g.has 'h' && (g.has 'H' || recurses || 1 < paths.length)
        let l : LineSearch := ⟨search, g.has 'w', g.has 'x', g.has 'v', number 'm',
          (number 'B').getD around, (number 'A').getD around, g.has 'n', names, g.has 'b',
          g.has 'o'⟩
        let fits (c : Char) (p : Chars) : Bool :=
          let name := (p.reverse.takeWhile (· != '/')).reverse
          (g.values c).any fun t => (Pattern.ofMarked (t.map (·, false))).fits name
        let paths := if recurses then
            (if paths.isEmpty then [[]] else paths).flatMap fun p =>
              (filesBelow s folderDepth p).filter fun q =>
                (!g.has 'X' || fits 'X' q) && !fits 'Y' q
          else if paths.isEmpty then [['-']]
          else paths
        let (found, failed, s) := paths.zipIdx.foldl (fun (found, failed, s) (p, i) =>
          let (inputs, t) := s.inputs (.plain "grep" 2) [p]
          let t := if g.has 's' && t.status != 0 then s else t
          let failed := failed || inputs.isEmpty
          let isFirst := i = 0 || !found
          inputs.foldl (fun (found, failed, s) input =>
            let (more, s) := searchInput g l isFirst input s
            (found || more, failed, s)) (found, failed, t)) (false, false, s)
        let succeeded := if g.has 'L' then !found else found
        s.answer (if failed && !(found && g.has 'q') then 2 else if succeeded then 0 else 1)

end PxeLaunch.Script

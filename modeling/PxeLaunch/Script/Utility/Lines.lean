import PxeLaunch.Script.Utility.Input

/-!
Utilities that show lines: whole, in parts, numbered, counted or side by side.
-/

set_option autoImplicit false

namespace PxeLaunch.Script

/-! ### Showing files -/

/-- A character as it is shown by those who show all of them. -/
def shownChar (tabs : Bool) (c : Char) : Chars :=
  let low (n : Nat) : Chars :=
    if n < 32 then ['^', Char.ofNat (n + 64)] else if n = 127 then ['^', '?'] else [Char.ofNat n]
  if c = '\n' || c = '\t' && !tabs then [c]
  else if c.toNat < 128 then low c.toNat
  else 'M' :: '-' :: low (c.toNat - 128)

/-- How lines are dressed up. -/
structure Dress where
  numbered : Bool
  onlyFull : Bool
  squeezed : Bool
  ends : Bool
  tabs : Bool
  hidden : Bool

/-- A line that is dressed up after others. -/
def Dress.line (d : Dress) (n : Nat) (line : Chars) : Chars × Nat :=
  let body := chomped line
  let counts := if d.onlyFull then !body.isEmpty else d.numbered
  let n := if counts then n + 1 else n
  let number := if counts then alignRight 6 (natText n) ++ ['\t'] else []
  let shown :=
    if d.hidden then body.flatMap (shownChar d.tabs)
    else if d.tabs then body.flatMap fun c => if c = '\t' then ['^', 'I'] else [c]
    else body
  let ending := (if d.ends then ['$'] else []) ++ ['\n']
  (number ++ shown ++ if body.length < line.length then ending else [], n)

/-- Lines dressed up one after another. -/
def Dress.lines (d : Dress) (n : Nat) (wasEmpty : Bool) : List Chars → Chars
  | [] => []
  | line :: rest =>
    let isEmpty := line = ['\n']
    if d.squeezed && isEmpty && wasEmpty then d.lines n true rest
    else
      let (shown, n) := d.line n line
      shown ++ d.lines n isEmpty rest

/-- Passes on what comes in when it comes. -/
def passOn (s : Shell) : Shell :=
  let stop := s.endOf 0
  let (pieces, s) := s.drainPieces 0
  (pieces.foldl (fun s (time, bytes) => (s.waitUntil time).send 1 bytes) s).waitUntil stop

/-- Shows files one after another. -/
def showFiles : Utility :=
  withOptions "cat" ⟨"nbsETAvetu", "", [("number", 'n'), ("show-ends", 'E'), ("show-tabs", 'T'),
    ("show-all", 'A'), ("squeeze-blank", 's'), ("number-nonblank", 'b'),
    ("show-nonprinting", 'v')], true⟩ 1 fun g s =>
    let all := g.has 'A'
    let d : Dress := ⟨g.has 'n', g.has 'b', g.has 's', g.has 'E' || g.has 'e' || all,
      g.has 'T' || g.has 't' || all, g.has 'v' || g.has 'e' || g.has 't' || all⟩
    let paths := if g.operands.isEmpty then [['-']] else g.operands
    let plain := g.options.all (·.1 = 'u')
    if plain then
      paths.foldl (fun s p =>
        if p = ['-'] && !s.readsFolder then passOn s
        else
          let failed := s.status
          let (inputs, s) := s.inputs (.quoting "cat" 1) [p]
          let s := s.put (inputs.flatMap (·.content))
          if s.status = 0 then s.answer failed else s) (s.answer 0)
    else
      let (inputs, s) := s.inputs (.quoting "cat" 1) paths
      s.put (d.lines 0 false (linesOf (inputs.flatMap (·.content))))

/-! ### Beginnings and ends -/

/-- Which part of a text is asked for. -/
structure Span where
  bytes : Bool
  fromEnd : Bool
  count : Nat

/-- What a span takes of a list: the first or the last of it, or all but those. -/
def Span.take {α : Type} (p : Span) (asksRest : Bool) (xs : List α) : List α :=
  if p.fromEnd then
    if asksRest then xs.drop (p.count - 1) else xs.drop (xs.length - p.count)
  else if asksRest then xs.take (xs.length - p.count)
  else xs.take p.count

/-- Arguments with an option like `-4` in front, written out. -/
def writtenOut : List Chars → List Chars
  | ('-' :: c :: cs) :: rest =>
    (if c.isDigit then '-' :: 'n' :: c :: cs else '-' :: c :: cs) :: rest
  | args => args

/-- Shows the beginnings of files, or their ends. -/
def showSpan (name : String) (fromEnd : Bool) : Utility := fun args s =>
  withOptions name ⟨"qvfFz", "nc", [("lines", 'n'), ("bytes", 'c'), ("quiet", 'q'),
    ("silent", 'q'), ("verbose", 'v'), ("follow", 'f')], true⟩ 1 (fun g s =>
    let unit := (g.last? "nc").getD 'n'
    let text := (g.value? unit).getD ['1', '0']
    let sign := if fromEnd then '+' else '-'
    let asksRest := text.head? = some sign
    let digits := match text with
      | c :: cs => if c = '-' || c = '+' then cs else text
      | [] => []
    match sizeOf? digits with
    | none =>
      let what := if unit = 'c' then "bytes" else "lines"
      blame name ("invalid number of ".toList ++ what.toList ++ ": ".toList ++ quotedName text) 1 s
    | some n =>
      let p : Span := ⟨unit = 'c', fromEnd, n⟩
      let zeros := p.bytes && g.operands = ["/dev/zero".toList]
      if zeros then (s.put (List.replicate n (Char.ofNat 0))).answer 0
      else
        let lead (p : Chars) : Chars :=
          "cannot open ".toList ++ quotedName p ++ " for reading".toList
        let folder (p : Chars) : Chars := "error reading ".toList ++ quotedName p
        let (inputs, s) := s.inputs ⟨name, lead, folder, 1⟩ g.operands
        let headed := g.has 'v' || 1 < g.operands.length && !g.has 'q'
        let shown := inputs.zipIdx.flatMap fun (input, i) =>
          let title := if input.name = ['-'] then "standard input".toList else input.name
          let head := if headed then
            (if i = 0 then [] else ['\n']) ++ "==> ".toList ++ title ++ " <==\n".toList else []
          head ++ if p.bytes then p.take asksRest input.content
            else (p.take asksRest (linesOf input.content)).flatten
        s.put shown) (writtenOut args) s

/-! ### Counts -/

/-- The number of words in a text. -/
def wordCount (cs : Chars) : Nat :=
  (cs.splitBy fun a b => isSpace a == isSpace b).countP fun w => !w.all isSpace

/-- The counts of a text that are asked for. -/
def countsOf (g : Given) (cs : Chars) : List Nat :=
  let counts : List (Char × Nat) :=
    [('l', cs.count '\n'), ('w', wordCount cs), ('m', cs.length), ('c', cs.length),
     ('L', ((bareLines cs).map List.length).foldl max 0)]
  counts.filterMap fun (letter, n) =>
    if g.has letter || g.options.isEmpty && ['l', 'w', 'c'].contains letter then some n else none

/-- Counts lines, words and bytes. -/
def countLines : Utility :=
  withOptions "wc" ⟨"lwmcL", "", [("lines", 'l'), ("words", 'w'), ("chars", 'm'), ("bytes", 'c'),
    ("max-line-length", 'L')], true⟩ 1 fun g s =>
    let piped := !s.readsFile
    let paths := g.operands
    let single := paths.length ≤ 1 && (countsOf g []).length = 1
    let irregular := (paths.isEmpty || paths.contains ['-']) && piped ||
      paths.any fun p => (device? p).isSome || s.files.isFolder (Shell.pathOf p)
    let (inputs, t) := s.inputs (.quoting "wc" 1) paths
    let folders := paths.filter fun p => s.files.isFolder (Shell.pathOf p)
    let inputs := inputs ++ folders.map fun p => ⟨p, []⟩
    let size := (inputs.map (·.content.length)).foldl (· + ·) 0
    let width := if single then 1 else if irregular then 7 else (natText size).length
    let row (counts : List Nat) (name : Chars) : Chars :=
      [' '].intercalate (counts.map fun n => alignRight width (natText n)) ++
        (if name.isEmpty then [] else ' ' :: name) ++ ['\n']
    let rows := inputs.map fun input =>
      row (countsOf g input.content) (if paths.isEmpty then [] else input.name)
    let total := inputs.foldl (fun sums input =>
      (countsOf g input.content).zipWith (· + ·) sums) ((countsOf g []).map fun _ => 0)
    let totals := if 1 < paths.length then [row total "total".toList] else []
    t.put (rows ++ totals).flatten

/-! ### Numbers before lines -/

/-- How lines are numbered. -/
structure Numbering where
  all : Bool
  width : Nat
  gap : Chars
  step : Int
  format : Chars

def Numbering.shown (n : Numbering) (k : Int) : Chars :=
  if n.format = "ln".toList then alignLeft n.width (intText k)
  else if n.format = "rz".toList then
    List.replicate (n.width - (intText k).length) '0' ++ intText k
  else alignRight n.width (intText k)

/-- Lines with numbers before them; empty ones may be left without. -/
def Numbering.lines (n : Numbering) (k : Int) : List Chars → Chars
  | [] => []
  | line :: rest =>
    if n.all || !line.isEmpty then
      n.shown k ++ n.gap ++ line ++ '\n' :: n.lines (k + n.step) rest
    else List.replicate (n.width + n.gap.length) ' ' ++ line ++ '\n' :: n.lines k rest

def numberLines : Utility :=
  withOptions "nl" ⟨"p", "bwsvifnhl", [("body-numbering", 'b'), ("number-width", 'w'),
    ("number-separator", 's'), ("starting-line-number", 'v'), ("line-increment", 'i')], true⟩ 1
    fun g s =>
    let number (c : Char) (usual : Int) : Int := ((g.value? c).bind intOf?).getD usual
    let n : Numbering := ⟨g.value? 'b' = some ['a'], (number 'w' 6).toNat,
      (g.value? 's').getD ['\t'], number 'i' 1, (g.value? 'n').getD "rn".toList⟩
    filterText "nl" g.operands (fun cs => n.lines (number 'v' 1) (bareLines cs)) s

/-! ### Lines in another form -/

/-- Shows the lines of each file backwards. -/
def reverseFiles : Utility :=
  withOptions "tac" ⟨"br", "s", [], true⟩ 1 fun g s =>
    let lead (p : Chars) : Chars :=
      "failed to open ".toList ++ quotedName p ++ " for reading".toList
    let folder (p : Chars) : Chars := p ++ ": read error".toList
    let (inputs, s) := s.inputs ⟨"tac", lead, folder, 1⟩ g.operands
    s.put (inputs.flatMap fun input => (linesOf input.content).reverse.flatten)

/-- Shows each line backwards. -/
def reverseLines : Utility := fun args s =>
  let (inputs, s) := s.inputs ⟨"rev", ("cannot open ".toList ++ ·), id, 1⟩ args
  s.put (inputs.flatMap fun input => (linesOf input.content).flatMap fun line =>
    (chomped line).reverse ++ line.drop (chomped line).length)

/-- A line in pieces of some width, cut after blanks if that is asked for. -/
def folded (width : Nat) (atBlanks : Bool) : (fuel : Nat) → Chars → List Chars
  | 0, line => [line]
  | fuel + 1, line =>
    if line.length ≤ width then [line]
    else
      let piece := line.take width
      let upToBlank := (piece.reverse.dropWhile (· != ' ')).reverse
      let piece := if atBlanks && !upToBlank.isEmpty then upToBlank else piece
      piece :: folded width atBlanks fuel (line.drop piece.length)

def foldLines : Utility := fun args s =>
  let args := args.map fun
    | '-' :: c :: cs => if c.isDigit then '-' :: 'w' :: c :: cs else '-' :: c :: cs
    | arg => arg
  withOptions "fold" ⟨"sb", "w", [("width", 'w'), ("spaces", 's'), ("bytes", 'b')], true⟩ 1
    (fun g s =>
      let width := max 1 (natOf 10 ((g.value? 'w').getD ['8', '0']))
      filterText "fold" g.operands (fun cs => (linesOf cs).flatMap fun line =>
        let body := chomped line
        ['\n'].intercalate (folded width (g.has 's') body.length body) ++
          line.drop body.length) s) args s

/-- Lines of several files next to each other, with separators that take turns. -/
def sideBySide (gaps : Chars) : (fuel : Nat) → List (List Chars) → Chars
  | 0, _ => []
  | fuel + 1, columns =>
    if columns.all List.isEmpty then []
    else
      let cells := columns.map fun column => column.headD []
      let gap (i : Nat) : Chars := (gaps[i % gaps.length]?).toList
      let row := cells.zipIdx.flatMap fun (cell, i) => (if i = 0 then [] else gap (i - 1)) ++ cell
      row ++ '\n' :: sideBySide gaps fuel (columns.map (List.drop 1))

/-- Every so many of the lines, from one of them on. -/
def everyFrom (start step : Nat) (lines : List Chars) : List Chars :=
  lines.zipIdx.filterMap fun (line, i) => if i % step = start then some line else none

def pasteLines : Utility :=
  withOptions "paste" ⟨"sz", "d", [("delimiters", 'd'), ("serial", 's')], true⟩ 1 fun g s =>
    let unescape (cs : Chars) : Chars :=
      String.toList ((((String.ofList cs).replace "\\t" "\t").replace "\\n" "\n").replace "\\0" "")
    let gaps := unescape ((g.value? 'd').getD ['\t'])
    let paths := if g.operands.isEmpty then [['-']] else g.operands
    let shared := paths.count ['-']
    let first := paths.foldl (fun found p => if found.contains p && p = ['-'] then found
      else found ++ [p]) []
    let (inputs, s) := s.inputs (.quoting "paste" 1) first
    let stdin := (inputs.find? (·.name = ['-'])).map fun i => bareLines i.content
    let (columns, _) := paths.foldl (fun (columns, i) p =>
      if p = ['-'] then (columns ++ [everyFrom i shared (stdin.getD [])], i + 1)
      else
        let found := (inputs.find? (·.name = p)).map fun i => bareLines i.content
        (columns ++ found.toList, i)) (([] : List (List Chars)), 0)
    if g.has 's' then
      s.put (columns.flatMap fun column => sideBySide gaps 1 (column.map fun cell => [cell]) ++
        if column.isEmpty then ['\n'] else [])
    else
      let longest := (columns.map List.length).foldl max 0
      s.put (sideBySide gaps (longest + 1) columns)

/-- Passes the input on and keeps copies of it in files. -/
def teeFiles : Utility :=
  withOptions "tee" ⟨"aip", "", [("append", 'a'), ("ignore-interrupts", 'i')], true⟩ 1 fun g s =>
    let (targets, s) := g.operands.foldl (fun (targets, s) p =>
      match device? p with
      | some _ => (targets ++ [p], s)
      | none =>
        let opened := if g.has 'a' && s.files.contains (Shell.pathOf p) then
          (s.files.read (Shell.pathOf p)).map fun _ => s else s.writeFile p []
        match opened with
        | .ok s => (targets ++ [p], s)
        | .error e => (targets, blame "tee" (nameInErrors p ++ ": ".toList ++ Shell.reason e) 1 s))
      (([] : List Chars), s.answer 0)
    let stop := s.endOf 0
    let (pieces, s) := s.drainPieces 0
    let s := pieces.foldl (fun s (time, bytes) => (s.waitUntil time).send 1 bytes) s
    let content := Chars.ofBytes (pieces.flatMap (·.2))
    (targets.foldl (fun s p =>
      let old := match device? p, s.readFile p with
        | none, .ok (old, _) => old
        | _, _ => []
      match s.writeFile p (old ++ content) with
      | .ok s => s
      | .error _ => s) s).waitUntil stop

/-! ### Neighbouring lines that are the same -/

/-- Lines without what does not count when they are compared. -/
structure Comparison where
  fields : Nat
  chars : Nat
  width : Option Nat
  ignoresCase : Bool

def skipFields : Nat → Chars → Chars
  | 0, cs => cs
  | n + 1, cs => skipFields n ((cs.dropWhile isBlank).dropWhile (!isBlank ·))

def Comparison.key (c : Comparison) (line : Chars) : Chars :=
  let cs := (skipFields c.fields line).drop c.chars
  let cs := (c.width.map cs.take).getD cs
  if c.ignoresCase then cs.map Char.toLower else cs

/-- Neighbours that are the same, together. -/
def groupsOf (c : Comparison) (lines : List Chars) : List (List Chars) :=
  lines.splitBy fun a b => c.key a = c.key b

def uniqueLines : Utility :=
  withOptions "uniq" ⟨"cduiDz", "fsw", [("count", 'c'), ("repeated", 'd'), ("unique", 'u'),
    ("ignore-case", 'i'), ("skip-fields", 'f'), ("skip-chars", 's'), ("check-chars", 'w')],
    true⟩ 1 fun g s =>
    let number (c : Char) : Option Nat := (g.value? c).map (natOf 10)
    let c : Comparison := ⟨(number 'f').getD 0, (number 's').getD 0, number 'w', g.has 'i'⟩
    let (inputs, s) := s.inputs (.quoting "uniq" 1) (g.operands.take 1)
    let groups := (groupsOf c (bareLines (inputs.flatMap (·.content)))).filter fun group =>
      !((g.has 'd' || g.has 'D') && group.length = 1 || g.has 'u' && 1 < group.length)
    let shown := groups.flatMap fun group =>
      if g.has 'D' then unlines group
      else
        let count := if g.has 'c' then alignRight 7 (natText group.length) ++ [' '] else []
        count ++ group.headD [] ++ ['\n']
    match g.operands with
    | [_, target] => if target = ['-'] then s.put shown else
      match s.writeFile target shown with
      | .ok s => s
      | .error e => blame "uniq" (target ++ ": ".toList ++ Shell.reason e) 1 s
    | _ => if s.status = 0 then s.put shown else s

/-- Tells the lines of two sorted lists apart: those of the first, of the second, and of both. -/
def compared : (fuel : Nat) → List Chars → List Chars → List (Nat × Chars)
  | 0, _, _ => []
  | _, [], bs => bs.map (1, ·)
  | _, as, [] => as.map (0, ·)
  | fuel + 1, a :: as, b :: bs =>
    if a = b then (2, a) :: compared fuel as bs
    else if Bytes.before a.toBytes b.toBytes then (0, a) :: compared fuel as (b :: bs)
    else (1, b) :: compared fuel (a :: as) bs

def commonLines : Utility :=
  withOptions "comm" ⟨"123", "", [], true⟩ 1 fun g s =>
    let (inputs, s) := s.inputs (.quoting "comm" 1) g.operands
    match inputs with
    | [a, b] =>
      let as := bareLines a.content
      let bs := bareLines b.content
      let hidden (n : Nat) : Bool := g.has (Char.ofNat (n + '1'.toNat))
      let rows := compared (as.length + bs.length + 1) as bs
      s.put (rows.flatMap fun (n, line) =>
        if hidden n then []
        else ((List.range n).filter (!hidden ·)).map (fun _ => '\t') ++ line ++ ['\n'])
    | _ => if s.status = 0 then missingOperand "comm" 1 s else s

end PxeLaunch.Script

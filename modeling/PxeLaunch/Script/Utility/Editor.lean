import PxeLaunch.Script.Format
import PxeLaunch.Script.Regular
import PxeLaunch.Script.Utility.Input

/-!
Editing lines as they pass by. An editing program is a list of steps, of which each may be bound to
lines; it is run once for every line, on a space that holds that line and another one that is kept.
-/

set_option autoImplicit false

namespace PxeLaunch.Script.Editor

open Regular (Dialect Match Search Subject)

/-! ### Programs -/

/-- The lines that a step is bound to. An empty expression stands for the last one used. -/
inductive Address where
  | line (n : Nat)
  | every (first step : Nat)
  | last
  | search (r : Option Search)

/-- The end of a range of lines. -/
inductive RangeEnd where
  | address (a : Address)
  | further (n : Nat)
  | multiple (n : Nat)

structure Binding where
  start : Option Address
  stop : Option RangeEnd
  negated : Bool

/-- A piece of what is put in the place of a match. -/
inductive Filler where
  | char (c : Char)
  | group (n : Nat)
  | mode (letter : Char)

/-- Putting something in the place of matches. -/
structure Substitution where
  search : Option Search
  filler : List Filler
  all : Bool
  number : Nat
  prints : Bool
  target : Option Chars

/-- What a step does. -/
inductive Action where
  | block (stop : Nat)
  | nothing
  | label (name : Chars)
  | append (text : Chars)
  | insert (text : Chars)
  | change (text : Chars)
  | read (path : Chars)
  | write (path : Chars)
  | jump (letter : Char) (label : Chars)
  | substitute (s : Substitution)
  | exchange (source target : Chars)
  | quit (letter : Char) (status : Nat)
  | plain (letter : Char)

structure Step where
  binding : Binding
  action : Action

/-- What is wrong with a program. -/
inductive Flaw where
  | unknownCommand (c : Char)
  | unterminated (what : String)
  | missingCommand
  | unexpected (what : String)
  | unmatchedBrace
  | extraCharacters
  | badOption
  | lengths
  | noText
  | noLabel
  | reference (n : Nat)
  | zeroNumber
  | expression (flaw : Regular.Flaw)
  | addressedLabel
  | oneAddress
  | zeroLine

def Flaw.message : Flaw → String
  | .unknownCommand c => "unknown command: \x60" ++ c.toString ++ "'"
  | .unterminated what => "unterminated " ++ what
  | .missingCommand => "missing command"
  | .unexpected what => "unexpected \x60" ++ what ++ "'"
  | .unmatchedBrace => "unmatched \x60\x7b'"
  | .extraCharacters => "extra characters after command"
  | .badOption => "unknown option to \x60s'"
  | .lengths => "strings for \x60y' command are different lengths"
  | .noText => "expected \\ after \x60a', \x60c' or \x60i'"
  | .noLabel => "\":\" lacks a label"
  | .reference n => "invalid reference \\" ++ toString n ++ " on \x60s' command's RHS"
  | .zeroNumber => "number option to \x60s' command may not be zero"
  | .expression flaw => flaw.message
  | .addressedLabel => ": doesn't want any addresses"
  | .oneAddress => "command only uses one address"
  | .zeroLine => "invalid usage of line address 0"

/-! ### Reading programs -/

/-- A flaw, with the characters that were left when it was found. -/
abbrev Read (α : Type) := Chars → Except (Flaw × Nat) (α × Chars)

def refuse {α : Type} (flaw : Flaw) (rest : Chars) : Except (Flaw × Nat) α :=
  .error (flaw, rest.length)

/-- The characters up to a delimiter, which a backslash protects. In an expression the letter of a
newline becomes one, and sets in brackets are left alone. -/
def untilDelimiter (delimiter : Char) (isExpression : Bool) (found : Chars) :
    (fuel : Nat) → Chars → Option (Chars × Chars)
  | 0, _ => none
  | _, [] => none
  | fuel + 1, c :: rest =>
    if c = delimiter then some (found.reverse, rest)
    else if c = '\n' && isExpression then none
    else if c = '\\' then
      match rest with
      | [] => none
      | d :: after =>
        if d = delimiter then
          let kept : Chars := if !isExpression && d = '&' then [d, '\\'] else [d]
          untilDelimiter delimiter isExpression (kept ++ found) fuel after
        else if d = 'n' && isExpression then
          untilDelimiter delimiter isExpression ('\n' :: found) fuel after
        else untilDelimiter delimiter isExpression (d :: '\\' :: found) fuel after
    else untilDelimiter delimiter isExpression (c :: found) fuel rest

/-- The expression that a text spells; an empty one stands for the last one used. -/
def searchOf (extended ignoresCase : Bool) (text rest : Chars) :
    Except (Flaw × Nat) (Option Search) :=
  if text.isEmpty then .ok none
  else match Search.ofText ⟨extended, .edgesAndControls, ignoresCase, false⟩ text with
    | .ok r => .ok (some r)
    | .error flaw => refuse (.expression flaw) rest

/-- An address at the front. -/
def readAddress (extended : Bool) : Read (Option Address) := fun cs =>
  let digits := cs.takeWhile Char.isDigit
  if !digits.isEmpty then
    let n := natOf 10 digits
    match cs.drop digits.length with
    | '~' :: rest =>
      let step := rest.takeWhile Char.isDigit
      .ok (some (.every n (natOf 10 step)), rest.drop step.length)
    | rest => .ok (some (.line n), rest)
  else
    let expression (delimiter : Char) (rest : Chars) :
        Except (Flaw × Nat) (Option Address × Chars) :=
      match untilDelimiter delimiter true [] (rest.length + 1) rest with
      | some (text, rest) => do
        let flags := rest.takeWhile fun c => c = 'I' || c = 'M'
        let rest := rest.drop flags.length
        let r ← searchOf extended (flags.contains 'I') text rest
        return (some (.search r), rest)
      | none => refuse (.unterminated "address regex") []
    match cs with
    | '$' :: rest => .ok (some .last, rest)
    | '/' :: rest => expression '/' rest
    | '\\' :: delimiter :: rest => expression delimiter rest
    | _ => .ok (none, cs)

def dropBlanks (cs : Chars) : Chars := cs.dropWhile isBlank

/-- The lines that a step is bound to. -/
def readBinding (extended : Bool) : Read Binding := fun cs => do
  let (start, rest) ← readAddress extended cs
  let (stop, rest) ← match start, dropBlanks rest with
    | some _, ',' :: after =>
      let after := dropBlanks after
      let number (cs : Chars) : Nat × Chars :=
        let digits := cs.takeWhile Char.isDigit
        (natOf 10 digits, cs.drop digits.length)
      match after with
      | '+' :: ds => pure (some (RangeEnd.further (number ds).1), (number ds).2)
      | '~' :: ds => pure (some (RangeEnd.multiple (number ds).1), (number ds).2)
      | _ => do
        match ← readAddress extended after with
        | (some a, rest) => pure (some (.address a), rest)
        | (none, _) => refuse (.unexpected ",") after
    | _, rest => pure (none, rest)
  let isZero : Bool := match start, stop with
    | some (.line 0), some (.address (.search _)) => false
    | some (.line 0), _ => true
    | _, _ => false
  if isZero then refuse .zeroLine rest
  let rest := dropBlanks rest
  let signs := rest.takeWhile fun c => c = '!' || isBlank c
  return (⟨start, stop, signs.contains '!'⟩, rest.drop signs.length)

/-- What is put in the place of a match, as it is written. -/
def fillers (found : List Filler) : (fuel : Nat) → Chars → List Filler
  | 0, _ => found.reverse
  | _, [] => found.reverse
  | fuel + 1, '&' :: rest => fillers (.group 0 :: found) fuel rest
  | fuel + 1, '\\' :: c :: rest =>
    let next : Filler :=
      if c.isDigit then .group (c.toNat - '0'.toNat)
      else if "LUEul".toList.contains c then .mode c
      else match c with
        | 'n' => .char '\n'
        | 't' => .char '\t'
        | 'r' => .char '\r'
        | 'f' => .char '\x0c'
        | 'v' => .char '\x0b'
        | 'a' => .char '\x07'
        | _ => .char c
    fillers (next :: found) fuel rest
  | fuel + 1, c :: rest => fillers (.char c :: found) fuel rest

/-- The rest of a line. -/
def restOfLine (cs : Chars) : Chars × Chars :=
  let line := cs.takeWhile (· != '\n')
  (line, cs.drop line.length)

/-- The letters after a substitution: those given, the number, the target, and the rest. -/
def readFlags (s : Substitution) (ignoresCase : Bool) : (fuel : Nat) →
    Read (Substitution × Bool)
  | 0, cs => .ok ((s, ignoresCase), cs)
  | fuel + 1, cs =>
    match cs with
    | 'g' :: rest => readFlags { s with all := true } ignoresCase fuel rest
    | 'p' :: rest => readFlags { s with prints := true } ignoresCase fuel rest
    | 'I' :: rest => readFlags s true fuel rest
    | 'i' :: rest => readFlags s true fuel rest
    | 'M' :: rest => readFlags s ignoresCase fuel rest
    | 'm' :: rest => readFlags s ignoresCase fuel rest
    | 'w' :: rest =>
      let (path, rest) := restOfLine (dropBlanks rest)
      .ok (({ s with target := some path }, ignoresCase), rest)
    | c :: rest =>
      if c.isDigit then
        let digits := cs.takeWhile Char.isDigit
        if natOf 10 digits = 0 then refuse .zeroNumber (cs.drop digits.length)
        else readFlags { s with number := natOf 10 digits } ignoresCase fuel
          (cs.drop digits.length)
      else if c = ';' || c = '\n' || c = '#' || c = '\x7d' || isSpace c then
        .ok ((s, ignoresCase), cs)
      else refuse .badOption rest
    | [] => .ok ((s, ignoresCase), [])

/-- A substitution, whose letter has been read. -/
def readSubstitution (extended : Bool) : Read Action := fun cs =>
  match cs with
  | [] => refuse (.unterminated "\x60s' command") []
  | delimiter :: rest =>
    match untilDelimiter delimiter true [] (rest.length + 1) rest with
    | none => refuse (.unterminated "\x60s' command") []
    | some (text, rest) =>
      match untilDelimiter delimiter false [] (rest.length + 1) rest with
      | none => refuse (.unterminated "\x60s' command") []
      | some (filler, rest) => do
        let filler := fillers [] (filler.length + 1) filler
        let ((s, ignoresCase), rest) ←
          readFlags ⟨none, filler, false, 1, false, none⟩ false (rest.length + 1) rest
        let r ← searchOf extended ignoresCase text rest
        let groups := (r.map (·.groups)).getD 9
        let most := filler.foldl (fun most f => match f with
          | .group n => max most n
          | _ => most) 0
        if groups < most then refuse (.reference most) rest
        else return (.substitute { s with search := r }, rest)

/-- The characters of a list, with those after a backslash taken for themselves. -/
def plainChars : Chars → Chars
  | '\\' :: 'n' :: rest => '\n' :: plainChars rest
  | '\\' :: c :: rest => c :: plainChars rest
  | c :: rest => c :: plainChars rest
  | [] => []

/-- An exchange of characters, whose letter has been read. -/
def readExchange : Read Action := fun cs =>
  match cs with
  | [] => refuse (.unterminated "\x60y' command") []
  | delimiter :: rest =>
    match untilDelimiter delimiter false [] (rest.length + 1) rest with
    | none => refuse (.unterminated "\x60y' command") []
    | some (source, rest) =>
      match untilDelimiter delimiter false [] (rest.length + 1) rest with
      | none => refuse (.unterminated "\x60y' command") []
      | some (target, rest) =>
        let source := plainChars source
        let target := plainChars target
        if source.length = target.length then .ok (.exchange source target, rest)
        else refuse .lengths rest

/-- The lines of a text in a program, up to one that no backslash continues. -/
def textFrom (found : Chars) : (fuel : Nat) → Chars → Chars × Chars
  | 0, cs => (found.reverse, cs)
  | _, [] => (found.reverse, [])
  | _ + 1, '\n' :: rest => (found.reverse, rest)
  | fuel + 1, '\\' :: c :: rest =>
    let shown := if "abfnrtv".toList.contains c then (escapeOf? c).getD c else c
    textFrom (shown :: found) fuel rest
  | fuel + 1, c :: rest => textFrom (c :: found) fuel rest

/-- The text of a step, whose letter has been read. -/
def readStepText : Read Chars := fun cs =>
  let cs := dropBlanks cs
  match cs with
  | [] => refuse .noText []
  | '\\' :: rest =>
    let rest := match dropBlanks rest with
      | '\n' :: after => after
      | _ => rest
    let (text, left) := textFrom [] (rest.length + 1) rest
    .ok (if rest.isEmpty then [] else text ++ ['\n'], left)
  | _ =>
    let (text, rest) := textFrom [] (cs.length + 1) cs
    .ok (text ++ ['\n'], rest)

/-- What has to come after a step that takes no text. -/
def readEnd : Read Unit := fun cs =>
  match dropBlanks cs with
  | [] => .ok ((), [])
  | c :: rest =>
    if c = ';' || c = '\n' then .ok ((), rest)
    else if c = '\x7d' || c = '#' then .ok ((), c :: rest)
    else refuse .extraCharacters rest

/-- A label, up to a blank or a semicolon. -/
def readLabel (cs : Chars) : Chars × Chars :=
  let cs := dropBlanks cs
  let name := cs.takeWhile fun c => !isSpace c && c != ';'
  (name, cs.drop name.length)

/-- A step, of which the lines have been read. -/
def readAction (extended : Bool) (c : Char) (rest : Chars) :
    Except (Flaw × Nat) (Action × Chars) := do
  let ended (r : Except (Flaw × Nat) (Action × Chars)) : Except (Flaw × Nat) (Action × Chars) := do
    let (action, rest) ← r
    let ((), rest) ← readEnd rest
    return (action, rest)
  let texted (f : Chars → Action) : Except (Flaw × Nat) (Action × Chars) := do
    let (text, rest) ← readStepText rest
    return (f text, rest)
  match c with
  | 's' => ended (readSubstitution extended rest)
  | 'y' => ended (readExchange rest)
  | 'a' => texted .append
  | 'i' => texted .insert
  | 'c' => texted .change
  | ':' =>
    let (name, rest) := readLabel rest
    if name.isEmpty then refuse .noLabel rest else ended (.ok (.label name, rest))
  | 'r' =>
    let (path, rest) := restOfLine (dropBlanks rest)
    return (.read path, rest)
  | 'w' =>
    let (path, rest) := restOfLine (dropBlanks rest)
    return (.write path, rest)
  | _ =>
    if "btT".toList.contains c then
      let (name, rest) := readLabel rest
      let target := name.takeWhile (· != '\x7d')
      ended (.ok (.jump c target, name.drop target.length ++ rest))
    else if "qQ".toList.contains c then
      let rest := dropBlanks rest
      let digits := rest.takeWhile Char.isDigit
      ended (.ok (.quit c (natOf 10 digits), rest.drop digits.length))
    else if "dDgGhHnNpPxzFl=".toList.contains c then ended (.ok (.plain c, rest))
    else refuse (.unknownCommand c) rest

/-- The steps of a program, the latest first, and the places of the blocks that are open. -/
structure Draft where
  steps : Array Step
  blocks : List Nat

/-- Closes the last block that is open. -/
def Draft.close? (d : Draft) : Option Draft :=
  match d.blocks with
  | i :: blocks =>
    let stop := d.steps.size
    let closed := d.steps.mapIdx fun j step =>
      if i = j then { step with action := .block stop } else step
    some ⟨closed, blocks⟩
  | [] => none

/-- Reads the steps of a program. -/
def readSteps (extended : Bool) (d : Draft) : (fuel : Nat) → Read Draft
  | 0, cs => .ok (d, cs)
  | fuel + 1, cs =>
    match cs.dropWhile fun c => isSpace c || c = ';' with
    | [] => if d.blocks.isEmpty then .ok (d, []) else .error (.unmatchedBrace, cs.length)
    | '#' :: rest => readSteps extended d fuel (rest.dropWhile (· != '\n'))
    | rest => do
      let (binding, rest) ← readBinding extended rest
      match rest with
      | [] => refuse .missingCommand []
      | '\x7b' :: rest =>
        readSteps extended ⟨d.steps.push ⟨binding, .block 0⟩, d.steps.size :: d.blocks⟩ fuel rest
      | '\x7d' :: rest =>
        match d.close? with
        | some d =>
          let ((), rest) ← readEnd rest
          readSteps extended d fuel rest
        | none => refuse (.unexpected "\x7d") rest
      | c :: rest =>
        if c = ':' && binding.start.isSome then refuse .addressedLabel rest
        else
          let (action, rest) ← readAction extended c rest
          readSteps extended { d with steps := d.steps.push ⟨binding, action⟩ } fuel rest

/-- The program that a text spells, or a flaw and the number of the character where it shows. -/
def programOf (extended : Bool) (text : Chars) : Except (Flaw × Nat) (Array Step) :=
  match readSteps extended ⟨#[], []⟩ (text.length + 2) text with
  | .ok (d, _) => .ok d.steps
  | .error (.unmatchedBrace, _) => .error (.unmatchedBrace, 0)
  | .error (flaw, left) => .error (flaw, text.length - left)

/-! ### Running programs -/

/-- A line and whether it ends in a newline. -/
structure Line where
  text : Chars
  ended : Bool

/-- How far a range of lines is. -/
inductive Progress where
  | outside
  | untilLine (n : Nat)
  | untilAddress (a : Address)

/-- What remains to be done with a line. -/
inductive Next where
  | step (i : Nat)
  | cycle
  | again
  | stop (status : Nat)

/-- The state of an editing program, for which lines end with a mark. -/
structure State where
  mark : Char
  space : Chars
  ended : Bool
  held : Chars
  number : Nat
  left : List Line
  out : Chars
  isOpen : Bool
  queue : List Chars
  targets : List (Chars × Chars)
  ranges : List (Nat × Progress)
  changed : Bool
  last : Option Search
  broken : Bool
  silent : Bool
  name : Chars

namespace State

/-- Adds a text to what is shown. The newline that an earlier line lacks comes first. -/
def display (st : State) (text : Chars) (ended : Bool) : State :=
  let lead : Chars := if st.isOpen then [st.mark] else []
  { st with
    out := (if ended then [st.mark] else []) ++ text.reverse ++ lead ++ st.out
    isOpen := !ended }

def showSpace (st : State) : State := st.display st.space st.ended

/-- Adds a line to a target. -/
def writeTo (st : State) (path text : Chars) : State :=
  if path = "/dev/stdout".toList then st.display text true
  else
    let old := (st.targets.lookup path).getD []
    { st with targets := (path, old ++ text ++ [st.mark]) :: st.targets.filter (·.1 != path) }

/-- Shows the texts that were to come after the line. -/
def flush (st : State) : State :=
  let shown := st.queue.foldl (fun (st : State) text =>
    if text.isEmpty then st
    else st.display (if text.getLast? = some '\n' then text.dropLast else text)
      (text.getLast? = some '\n')) st
  { shown with queue := [] }

/-- Looks for an expression, an empty one being the last one used. -/
def searching (st : State) (r : Option Search) : Option Search × State :=
  match r with
  | some r => (some r, { st with last := some r })
  | none =>
    match st.last with
    | some r => (some r, st)
    | none => (none, { st with broken := true })

/-- Whether the line is one that an address names. -/
def isAt (st : State) (a : Address) : Bool × State :=
  match a with
  | .line n => (st.number = n, st)
  | .every first step =>
    (if step = 0 then st.number = first
      else first ≤ st.number && (st.number - first) % step = 0, st)
  | .last => (st.left.isEmpty, st)
  | .search r =>
    match st.searching r with
    | (some r, st) => (r.holds st.space, st)
    | (none, st) => (false, st)

def setRange (st : State) (i : Nat) (p : Progress) : State :=
  { st with ranges := (i, p) :: st.ranges.filter (·.1 != i) }

/-- Begins a range at the line that it starts with. -/
def enter (st : State) (i : Nat) (stop : RangeEnd) : State :=
  let upTo (n : Nat) : State := if st.number < n then st.setRange i (.untilLine n) else st
  match stop with
  | .further n => upTo (st.number + n)
  | .multiple n => if n = 0 then st else upTo ((st.number + n - 1) / n * n)
  | .address (.line n) => upTo n
  | .address a => st.setRange i (.untilAddress a)

/-- Whether a step is to be taken on the line. -/
def isBound (st : State) (i : Nat) (b : Binding) : Bool × State :=
  let (hit, st) := match b.start, b.stop with
    | none, _ => (true, st)
    | some a, none => st.isAt a
    | some a, some stop =>
      let progress := match st.ranges.lookup i, a with
        | some p, _ => p
        | none, .line 0 =>
          match stop with
          | .address b => .untilAddress b
          | _ => .outside
        | none, _ => .outside
      match progress with
      | .outside =>
        let (hit, st) := st.isAt a
        (hit, if hit then st.enter i stop else st)
      | .untilLine n =>
        (st.number ≤ n, if n ≤ st.number then st.setRange i .outside else st)
      | .untilAddress b =>
        let (hit, st) := st.isAt b
        (true, st.setRange i (if hit then .outside else .untilAddress b))
  (hit != b.negated, st)

/-- Whether the line is the last one of a range. -/
def isRangeOver (st : State) (i : Nat) (b : Binding) : Bool :=
  b.stop.isNone || b.negated || match st.ranges.lookup i with
    | some (.untilLine _) => false
    | some (.untilAddress _) => false
    | _ => true

/-- Takes the next line of the input. -/
def advance? (st : State) : Option (Line × State) :=
  match st.left with
  | line :: left => some (line, { st with left := left, number := st.number + 1 })
  | [] => none

/-- What fillers make of a match, with the case of letters changed as they ask. -/
def filled (t : Subject) (m : Match) (fs : List Filler) : Chars :=
  let cased (mode once : Option Char) (cs : Chars) : Chars :=
    let all := match mode with
      | some 'U' => cs.map Char.toUpper
      | some 'L' => cs.map Char.toLower
      | _ => cs
    match once, all with
    | some 'u', c :: rest => c.toUpper :: rest
    | some 'l', c :: rest => c.toLower :: rest
    | _, _ => all
  let (out, _, _) := fs.foldl (fun (out, mode, once) f =>
    match f with
    | .char c => (out ++ cased mode once [c], mode, none)
    | .group n =>
      let taken := m.group t n
      (out ++ cased mode once taken, mode, if taken.isEmpty then once else none)
    | .mode c =>
      if c = 'u' || c = 'l' then (out, mode, some c)
      else (out, if c = 'E' then none else some c, once))
    (([] : Chars), (none : Option Char), (none : Option Char))
  out

/-- Puts something in the place of matches. -/
def substitute (st : State) (s : Substitution) : State :=
  match st.searching s.search with
  | (none, st) => st
  | (some r, st) =>
    let t := r.subject st.space
    let found := r.all t fun _ => true
    let chosen := found.zipIdx.filter fun (_, i) =>
      if s.all then s.number ≤ i + 1 else s.number = i + 1
    if chosen.isEmpty then st
    else
      let (out, last) := chosen.foldl (fun (out, last) (m, _) =>
        (out ++ t.between last m.start ++ filled t m s.filler, m.stop)) (([] : Chars), 0)
      let st := { st with space := out ++ t.between last t.chars.size, changed := true }
      let st := if s.prints then st.showSpace else st
      match s.target with
      | some path => st.writeTo path st.space
      | none => st

/-- The line with all characters shown, in lines of some width. -/
def unambiguous (cs : Chars) : Chars :=
  let shown (c : Char) : Chars :=
    match c with
    | '\\' => "\\\\".toList
    | '\n' => "\\n".toList
    | '\t' => "\\t".toList
    | '\r' => "\\r".toList
    | '\x07' => "\\a".toList
    | '\x08' => "\\b".toList
    | '\x0b' => "\\v".toList
    | '\x0c' => "\\f".toList
    | _ =>
      if 32 ≤ c.toNat && c.toNat < 127 then [c]
      else
        let digits := Nat.toDigits 8 c.toNat
        '\\' :: List.replicate (3 - digits.length) '0' ++ digits
  let (out, _) := cs.foldl (fun (out, width) c =>
    let piece := shown c
    if width + piece.length > 69 then (out ++ "\\\n".toList ++ piece, piece.length)
    else (out ++ piece, width + piece.length)) (([] : Chars), 0)
  out ++ ['$']

/-- Takes a step that has no text of its own. -/
def takePlain (st : State) (i : Nat) (c : Char) : State × Next :=
  let on (st : State) : State × Next := (st, .step (i + 1))
  match c with
  | 'd' => (st, .again)
  | 'D' =>
    let first := st.space.takeWhile (· != st.mark)
    if first.length = st.space.length then (st, .again)
    else ({ st with space := st.space.drop (first.length + 1) }, .step 0)
  | 'g' => on { st with space := st.held }
  | 'G' => on { st with space := st.space ++ st.mark :: st.held }
  | 'h' => on { st with held := st.space }
  | 'H' => on { st with held := st.held ++ st.mark :: st.space }
  | 'x' => on { st with space := st.held, held := st.space }
  | 'z' => on { st with space := [] }
  | 'p' => on st.showSpace
  | 'P' => on (st.display (st.space.takeWhile (· != st.mark)) true)
  | 'l' => on (st.display (unambiguous st.space) true)
  | '=' => on (st.display (natText st.number) true)
  | 'F' => on (st.display st.name true)
  | 'n' =>
    if st.left.isEmpty then (st, .stop 0)
    else
      let st := (if st.silent then st else st.showSpace).flush
      match st.advance? with
      | some (line, st) => on { st with space := line.text, ended := line.ended }
      | none => (st, .stop 0)
  | 'N' =>
    let st := if st.left.isEmpty then st else st.flush
    match st.advance? with
    | some (line, st) =>
      on { st with space := st.space ++ st.mark :: line.text, ended := line.ended }
    | none => (st, .stop 0)
  | _ => on st

/-- Takes a step. -/
def take (files : Chars → Chars) (labels : List (Chars × Nat)) (size : Nat) (st : State) (i : Nat)
    (step : Step) : State × Next :=
  let on (st : State) : State × Next := (st, .step (i + 1))
  match st.isBound i step.binding with
  | (false, st) =>
    match step.action with
    | .block stop => (st, .step stop)
    | _ => on st
  | (true, st) =>
    match step.action with
    | .block _ => on st
    | .nothing => on st
    | .label _ => on st
    | .append text => on { st with queue := st.queue ++ [text] }
    | .insert text => on (st.display text.dropLast true)
    | .change text =>
      let st := if st.isRangeOver i step.binding then st.display text.dropLast true else st
      (st, .again)
    | .read path => on { st with queue := st.queue ++ [files path] }
    | .write path => on (st.writeTo path st.space)
    | .jump letter name =>
      let taken := letter = 'b' || letter = 't' && st.changed || letter = 'T' && !st.changed
      let st := if letter = 'b' then st else { st with changed := false }
      if taken then (st, .step (if name.isEmpty then size else (labels.lookup name).getD size))
      else on st
    | .substitute s => on (st.substitute s)
    | .exchange source target =>
      on { st with space := st.space.map fun c =>
        match source.findIdx? (· == c) with
        | some j => target.getD j c
        | none => c }
    | .quit letter status =>
      let st := if letter = 'Q' || st.silent then st else st.showSpace
      (if letter = 'Q' then st else st.flush, .stop (status + 1000))
    | .plain c => st.takePlain i c

/-- The end of a cycle: the line is shown, and what was to come after it. -/
def finish (st : State) : State := (if st.silent then st else st.showSpace).flush

/-- Runs a program from a step on, for the line in the space and then for the others. The status of
a program that is over is given back. -/
def run (program : Array Step) (files : Chars → Chars) (labels : List (Chars × Nat)) :
    (fuel : Nat) → State → Next → State × Nat
  | 0, st, _ => (st, 4)
  | fuel + 1, st, next =>
    let nextLine (st : State) : State × Nat :=
      match st.advance? with
      | some (line, st) =>
        run program files labels fuel
          { st with space := line.text, ended := line.ended, changed := false } (.step 0)
      | none => (st, 0)
    if st.broken then (st, 1)
    else match next with
      | .stop n => if n < 1000 then (st.finish, n) else (st, n - 1000)
      | .again => nextLine st.flush
      | .cycle => nextLine st.finish
      | .step i =>
        match program[i]? with
        | some step =>
          let (st, next) := st.take files labels program.size i step
          run program files labels fuel st next
        | none => nextLine st.finish

end State

/-- The lines of a text, which end with a mark. -/
def linesToEdit (mark : Char) (cs : Chars) : List Line :=
  let pieces := cs.splitOn mark
  let whole := pieces.dropLast.map fun line => (⟨line, true⟩ : Line)
  match pieces.getLast? with
  | some last => if last.isEmpty then whole else whole ++ [⟨last, false⟩]
  | none => whole

/-- More steps than a program needs that comes to an end. -/
def steps : Nat := 200000

/-- What a program makes of lines: the text, the texts for its targets, and its status. -/
def edit (program : Array Step) (files : Chars → Chars) (silent : Bool) (mark : Char) (name : Chars)
    (lines : List Line) : State × Nat :=
  let labels := program.toList.zipIdx.filterMap fun (step, i) => match step.action with
    | .label name => some (name, i)
    | _ => none
  let targets := program.toList.filterMap fun step => match step.action with
    | .write path => some (path, [])
    | .substitute s => s.target.map (·, [])
    | _ => none
  let st : State := ⟨mark, [], true, [], 0, lines, [], false, [], targets, [], false, none, false,
    silent, name⟩
  match st.advance? with
  | some (line, st) =>
    let st := { st with space := line.text, ended := line.ended }
    State.run program files labels steps st (.step 0)
  | none => (st, 0)

/-- A label that a program jumps to without having it. -/
def missingLabel? (program : Array Step) : Option Chars :=
  let labels := program.toList.filterMap fun step => match step.action with
    | .label name => some name
    | _ => none
  program.toList.findSome? fun step => match step.action with
    | .jump _ name => if name.isEmpty || labels.contains name then none else some name
    | _ => none

/-- How the use of the utility is shown. -/
def usage : Chars :=
  "Usage: sed [OPTION]... \x7bscript-only-if-no-other-script\x7d [input-file]...".toList

/-- The text of a program: those of its parts, each on lines of its own. -/
def programText (g : Given) (s : Shell) : Except Shell (Chars × List Chars × Shell) :=
  let parts := g.options.filter fun o => o.1 = 'e' || o.1 = 'f'
  if parts.isEmpty then
    match g.operands with
    | text :: paths => .ok (text, paths, s)
    | [] => .error (s.complain usage 1)
  else do
    let (texts, s) ← parts.foldlM (fun (texts, s) (letter, value) =>
      if letter = 'e' then .ok (texts ++ [value], s)
      else if value = ['-'] then
        let (text, s) := s.readStdin
        .ok (texts ++ [chomped text], s)
      else match s.readFile value with
        | .ok (text, s) => .ok (texts ++ [chomped text], s)
        | .error e => .error (blame "sed"
            ("couldn't open file ".toList ++ value ++ ": ".toList ++ Shell.reason e) 1 s))
      (([] : List Chars), s)
    return (['\n'].intercalate texts, g.operands, s)

/-- Writes the texts for the targets of a program. -/
def writeTargets (targets : List (Chars × Chars)) (s : Shell) : Shell :=
  targets.foldl (fun s (path, text) => match s.writeFile path text with
    | .ok s => s
    | .error e => blame "sed"
      ("couldn't open file ".toList ++ path ++ ": ".toList ++ Shell.reason e) 4 s) s

/-- The text of a file, which is empty if it cannot be read. -/
def textOfFile (s : Shell) (path : Chars) : Chars :=
  match s.readFile path with
  | .ok (text, _) => text
  | .error _ => []

/-- Changes files in their places, and keeps what they were if that is asked for. -/
def editFiles (program : Array Step) (silent : Bool) (mark : Char) (ending : Chars)
    (inputs : List Input) (s : Shell) : Shell :=
  inputs.foldl (fun s input =>
    let (st, status) := edit program (textOfFile s) silent mark input.name
      (linesToEdit mark input.content)
    let s := if ending.isEmpty then s else
      match s.writeFile (input.name ++ ending) input.content with
      | .ok s => s
      | .error _ => s
    let s := match s.writeFile input.name st.out.reverse with
      | .ok s => s
      | .error e => blame "sed" (input.name ++ ": ".toList ++ Shell.reason e) 4 s
    let s := writeTargets st.targets s
    if s.status = 0 then s.answer status else s) s

def editLines : Utility := fun args s =>
  let endings := args.filterMap fun a =>
    if "-i".toList.isPrefixOf a then some (a.drop 2)
    else if "--in-place".toList.isPrefixOf a then some (a.drop "--in-place=".length)
    else none
  let args := args.filter fun a => !("-i".toList.isPrefixOf a || "--in-place".toList.isPrefixOf a)
  let o : Options := ⟨"nErsuz", "efl", [("quiet", 'n'), ("silent", 'n'), ("expression", 'e'),
    ("file", 'f'), ("regexp-extended", 'E'), ("separate", 's'), ("unbuffered", 'u'),
    ("null-data", 'z')], true⟩
  match o.read args with
  | .error fault => (blame "sed" fault.message 1 s).complain usage 1
  | .ok g =>
    match programText g s with
    | .error s => s
    | .ok (text, paths, s) =>
      let mark := if g.has 'z' then Char.ofNat 0 else '\n'
      let silent := g.has 'n' || text.take 3 = "#n\n".toList || text = "#n".toList
      match programOf (g.has 'E' || g.has 'r') text with
      | .error (flaw, n) =>
        blame "sed" ("-e expression #1, char ".toList ++ natText n ++ ": ".toList ++
          flaw.message.toList) 1 s
      | .ok program =>
        match missingLabel? program with
        | some name =>
          blame "sed" ("can't find label for jump to \x60".toList ++ name ++ ['\'']) 4 s
        | none =>
          let (inputs, s) := s.inputs ⟨"sed", ("can't read ".toList ++ ·),
            (fun p => "couldn't edit ".toList ++ p ++ ": not a regular file".toList), 2⟩ paths
          match endings.getLast? with
          | some ending => editFiles program silent mark ending inputs s
          | none =>
            let parts := if g.has 's' then inputs else
              [⟨(inputs.head?.map (·.name)).getD ['-'],
                inputs.foldl (fun all input =>
                  let lead := if all.isEmpty || all.getLast? = some '\n' then all
                    else if input.content.isEmpty then all else all ++ ['\n']
                  lead ++ input.content) []⟩]
            parts.foldl (fun s input =>
              let (st, status) :=
                edit program (textOfFile s) silent mark input.name (linesToEdit mark input.content)
              let s := writeTargets st.targets (s.put st.out.reverse)
              if st.broken then
                blame "sed" "-e expression #1, char 0: no previous regular expression".toList 1 s
              else if s.status = 0 then s.answer status else s) s

end PxeLaunch.Script.Editor

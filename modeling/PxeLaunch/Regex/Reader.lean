import PxeLaunch.Regex.Expression
import PxeLaunch.Unicode.Property
import PxeLaunch.Unicode.Category
import PxeLaunch.Unicode.Recent

/-!
Reading the notation of regular expressions. The reader descends from alternations to single forms;
its fuel is the number of characters, since every round of a loop takes one.
-/

set_option autoImplicit false

namespace PxeLaunch.Regex

/-- What is left to read, and what the forms read so far have settled. -/
structure Cursor where
  rest : List Char
  /-- Blanks and comments between forms are skipped. -/
  skipsBlanks : Bool
  /-- The index that the next capturing group gets. -/
  nextIndex : Nat
  /-- The named groups so far. -/
  names : List (String × Nat)

/-- A reading step fails on a notation that is not allowed. -/
abbrev Reading := StateT Cursor Option

namespace Reading

def peek : Reading (Option Char) := do return (← get).rest.head?

/-- The character after the current one. -/
def peekSecond : Reading (Option Char) := do return (← get).rest[1]?

/-- The current character; the end of the notation is not allowed here. -/
def current : Reading Char := do
  match (← get).rest with
  | c :: _ => return c
  | [] => failure

/-- Steps over the current character. -/
def advance : Reading PUnit := modify fun s => { s with rest := s.rest.drop 1 }

/-- Whether a character counts as blank. -/
def isBlank (c : Char) : Bool :=
  if c.toNat < 0x80 then c = ' ' || (9 ≤ c.toNat && c.toNat ≤ 13)
  else Unicode.Property.whiteSpace.contains c.toNat

/-- The characters after leading blanks and comments. A comment runs from `#` to the end of a line.
-/
def dropBlanks (inComment : Bool) : List Char → List Char
  | [] => []
  | c :: rest =>
    if inComment then dropBlanks (c != '\n') rest
    else if isBlank c then dropBlanks false rest
    else if c = '#' then dropBlanks true rest
    else c :: rest

/-- Skips blanks and comments where the expression asks for that. -/
def skipBlanks : Reading PUnit :=
  modify fun s => if s.skipsBlanks then { s with rest := dropBlanks false s.rest } else s

/-- Steps over the current character and what may be skipped after it. -/
def advanceSkipping : Reading PUnit := do
  advance
  skipBlanks

/-- What comes after blanks and, among them, one mark of a comment. The text of the comment
counts. -/
def dropBlanksAndMark (cs : List Char) : List Char :=
  match cs.dropWhile isBlank with
  | '#' :: rest => rest.dropWhile isBlank
  | rest => rest

/-- The character that decides whether a hyphen, which is the current one, makes a range. Looking
ahead passes over the mark of a comment, but not over its text. -/
def peekPastBlanks : Reading (Option Char) := do
  let s ← get
  let after := s.rest.drop 1
  return (if s.skipsBlanks then dropBlanksAndMark after else after).head?

def require (condition : Bool) : Reading PUnit := if condition then pure () else failure

/-- Steps over `text` if it comes next. -/
def accept (text : String) : Reading Bool := do
  let s ← get
  let cs := text.toList
  if cs.isPrefixOf s.rest then
    set { s with rest := s.rest.drop cs.length }
    return true
  else return false

def isHexDigit (c : Char) : Bool :=
  c.isDigit || ('a' ≤ c && c ≤ 'f') || ('A' ≤ c && c ≤ 'F')

def hexValue (c : Char) : Nat :=
  if c.isDigit then c.toNat - '0'.toNat
  else if 'a' ≤ c && c ≤ 'f' then c.toNat - 'a'.toNat + 10
  else c.toNat - 'A'.toNat + 10

/-- The character with a code point that is written in hexadecimal. -/
def charOfHex (digits : List Char) : Reading Char := do
  let n := digits.foldl (fun n c => n * 16 + hexValue c) 0
  require (n < 0xD800 || (0xE000 ≤ n && n < 0x110000))
  return Char.ofNat n

/-- Reads the given number of hexadecimal digits. -/
def hexDigits (found : List Char) : Nat → Reading (List Char)
  | 0 => return found.reverse
  | n + 1 => do
    let c ← current
    require (isHexDigit c)
    advanceSkipping
    hexDigits (c :: found) n

/-- Reads up to the closing brace, from the character before the first one. -/
def braced (found : List Char) : (fuel : Nat) → Reading (List Char)
  | 0 => failure
  | fuel + 1 => do
    advanceSkipping
    let c ← current
    if c = '\x7d' then return found.reverse
    braced (c :: found) fuel

def fuel : Reading Nat := do return (← get).rest.length + 1

/-- Reads a code point, from the letter that says how many digits it has. -/
def hexLiteral (digits : Nat) : Reading Literal := do
  advanceSkipping
  if (← current) = '\x7b' then
    let ds ← braced [] (← fuel)
    require (!ds.isEmpty && ds.all isHexDigit)
    advanceSkipping
    return ⟨← charOfHex ds, false⟩
  else
    let ds ← hexDigits [] digits
    return ⟨← charOfHex ds, digits == 2⟩

/-- The name of a property, or a property and its value; the flag tells `!=` apart. -/
def splitQuery (found : List Char) : List Char → PropertyQuery × Bool
  | [] => (.named (String.ofList found.reverse), false)
  | '!' :: '=' :: value => (.valued (String.ofList found.reverse) (String.ofList value), true)
  | c :: rest => splitQuery (c :: found) rest

/-- Splits at the first of `!=`, else at the first colon, else at the first equals sign. -/
def queryOf (name : List Char) : PropertyQuery × Bool :=
  match splitQuery [] name with
  | (.valued p v, _) => (.valued p v, true)
  | (.named _, _) =>
    let mark := if name.contains ':' then ':' else '='
    if name.contains mark then
      (.valued (String.ofList (name.takeWhile (· != mark)))
        (String.ofList ((name.dropWhile (· != mark)).drop 1)), false)
    else (.named (String.ofList name), false)

/-- Reads a class that is chosen by a property, from its letter. -/
def propertyClass (negated : Bool) : Reading (PropertyQuery × Bool) := do
  advanceSkipping
  let c ← current
  if c = '\x7b' then
    let name ← braced [] (← fuel)
    advance
    let (query, differs) := queryOf name
    return (query, negated != differs)
  else
    require (c != '\\')
    advanceSkipping
    return (.named (String.singleton c), negated)

/-- The characters that have a meaning of their own somewhere in the notation. -/
def isMeta (c : Char) : Bool :=
  c ∈ ['\\', '.', '+', '*', '?', '(', ')', '|', '[', ']', '\x7b', '\x7d', '^', '$', '#', '&', '-',
    '~']

/-- The characters that a backslash leaves as they are. -/
def isEscapable (c : Char) : Bool :=
  isMeta c || (c.toNat < 0x80 && !c.isAlphanum && c != '<' && c != '>')

/-- A form that is written with few characters and may stand alone or inside brackets. -/
inductive Primitive where
  | literal (l : Literal)
  | assertion (a : Assertion)
  | short (kind : ShortClass) (negated : Bool)
  | property (query : PropertyQuery) (negated : Bool)

/-- A letter of the names of word boundaries. -/
def isBoundaryLetter (c : Char) : Bool :=
  ('a' ≤ c && c ≤ 'z') || ('A' ≤ c && c ≤ 'Z') || c = '-'

/-- Reads letters of a boundary's name. -/
def boundaryLetters (found : List Char) : (fuel : Nat) → Reading (List Char)
  | 0 => failure
  | fuel + 1 => do
    match ← peek with
    | some c =>
      if isBoundaryLetter c then
        advanceSkipping
        boundaryLetters (c :: found) fuel
      else return found.reverse
    | none => return found.reverse

/-- Reads the name of a special word boundary in braces. Braces that hold no letter belong to a
repetition and are left alone. -/
def specialBoundary : Reading Assertion := do
  let start ← get
  if start.rest.head? != some '\x7b' then return .wordBoundary
  advanceSkipping
  let c ← current
  if !isBoundaryLetter c then
    set start
    return .wordBoundary
  let name ← boundaryLetters [] (← fuel)
  require ((← current) = '\x7d')
  advance
  match String.ofList name with
  | "start" => return .wordStart
  | "end" => return .wordEnd
  | "start-half" => return .wordStartHalf
  | "end-half" => return .wordEndHalf
  | _ => failure

/-- Reads what a backslash introduces, from the backslash. -/
def escapeSequence : Reading Primitive := do
  advance
  let c ← current
  match c with
  | 'x' => return .literal (← hexLiteral 2)
  | 'u' => return .literal (← hexLiteral 4)
  | 'U' => return .literal (← hexLiteral 8)
  | 'p' | 'P' =>
    let (query, negated) ← propertyClass (c = 'P')
    return .property query negated
  | _ =>
    advance
    if isEscapable c then return .literal ⟨c, false⟩
    match c with
    | 'd' => return .short .digit false
    | 's' => return .short .space false
    | 'w' => return .short .word false
    | 'D' => return .short .digit true
    | 'S' => return .short .space true
    | 'W' => return .short .word true
    | 'a' => return .literal ⟨'\x07', false⟩
    | 'f' => return .literal ⟨'\x0c', false⟩
    | 't' => return .literal ⟨'\t', false⟩
    | 'n' => return .literal ⟨'\n', false⟩
    | 'r' => return .literal ⟨'\r', false⟩
    | 'v' => return .literal ⟨'\x0b', false⟩
    | 'A' => return .assertion .textStart
    | 'z' => return .assertion .textEnd
    | 'b' => return .assertion (← specialBoundary)
    | 'B' => return .assertion .notWordBoundary
    | '<' => return .assertion .wordStart
    | '>' => return .assertion .wordEnd
    | _ => failure

/-! ### Bracketed classes -/

def asciiClass? : String → Option AsciiClass
  | "alnum" => some .alnum
  | "alpha" => some .alpha
  | "ascii" => some .ascii
  | "blank" => some .blank
  | "cntrl" => some .cntrl
  | "digit" => some .digit
  | "graph" => some .graph
  | "lower" => some .lower
  | "print" => some .print
  | "punct" => some .punct
  | "space" => some .space
  | "upper" => some .upper
  | "word" => some .word
  | "xdigit" => some .xdigit
  | _ => none

/-- Reads a named ASCII class such as `[:alpha:]` if one stands here. -/
def namedAscii : Reading (Option ClassItem) := do
  let s ← get
  match s.rest with
  | '[' :: ':' :: after =>
    let negated := after.head? == some '^'
    let body := if negated then after.drop 1 else after
    let name := body.takeWhile (· != ':')
    match body.dropWhile (· != ':'), asciiClass? (String.ofList name) with
    | ':' :: ']' :: rest, some kind =>
      set { s with rest }
      return some (.ascii kind negated)
    | _, _ => return none
  | _ => return none

/-- Reads the hyphens that may open a class and stand for themselves. -/
def leadingHyphens (found : List ClassItem) : (fuel : Nat) → Reading (List ClassItem)
  | 0 => failure
  | fuel + 1 => do
    if (← current) = '-' then
      advanceSkipping
      leadingHyphens (.literal ⟨'-', false⟩ :: found) fuel
    else return found

/-- Reads the opening of a class: whether it is negated, and the members that only may stand here.
-/
def openBracket : Reading (Bool × List ClassItem) := do
  advanceSkipping
  let negated := (← current) = '^'
  if negated then
    advanceSkipping
  let hyphens ← leadingHyphens [] (← fuel)
  if hyphens.isEmpty && (← current) = ']' then
    advanceSkipping
    let _ ← current
    return (negated, [.literal ⟨']', false⟩])
  return (negated, hyphens)

/-- Reads one member of a class or one end of a range. -/
def classPrimitive : Reading Primitive := do
  let c ← current
  if c = '\\' then escapeSequence
  else
    advance
    return .literal ⟨c, false⟩

/-- Only a literal may end a range. -/
def Primitive.toLiteral : Primitive → Reading Literal
  | .literal l => return l
  | _ => failure

/-- An assertion is no member of a class. -/
def Primitive.toItem : Primitive → Reading ClassItem
  | .literal l => return .literal l
  | .short kind negated => return .short kind negated
  | .property query negated => return .property query negated
  | .assertion _ => failure

/-- Reads a member or a range. A hyphen before the closing bracket or another hyphen makes no range.
-/
def classRange : Reading ClassItem := do
  let first ← classPrimitive
  skipBlanks
  let c ← current
  let next ← peekPastBlanks
  if c != '-' || next == some ']' || next == some '-' then first.toItem
  else
    advanceSkipping
    let _ ← current
    let last ← classPrimitive
    let lo ← first.toLiteral
    let hi ← last.toLiteral
    require (lo.char ≤ hi.char)
    return .range lo hi

/-- The members read so far as the right side of the operation that waits for them. -/
def finishBody (pending : Option (ClassBody × SetOperation)) (found : List ClassItem) : ClassBody :=
  match pending with
  | none => .items found.reverse
  | some (left, op) => .operation op left found.reverse

/-- Reads a class up to and with its closing bracket. -/
def classBody (pending : Option (ClassBody × SetOperation)) (found : List ClassItem) :
    (fuel : Nat) → Reading ClassBody
  | 0 => failure
  | fuel + 1 => do
    skipBlanks
    let c ← current
    let next ← peekSecond
    if c = '[' then
      match ← namedAscii with
      | some item => classBody pending (item :: found) fuel
      | none =>
        let (negated, first) ← openBracket
        let body ← classBody none first fuel
        classBody pending (.nested negated body :: found) fuel
    else if c = ']' then
      advance
      return finishBody pending found
    else if c = '&' && next == some '&' then
      advance
      advance
      classBody (some (finishBody pending found, .inter)) [] fuel
    else if c = '-' && next == some '-' then
      advance
      advance
      classBody (some (finishBody pending found, .difference)) [] fuel
    else if c = '~' && next == some '~' then
      advance
      advance
      classBody (some (finishBody pending found, .symmetricDifference)) [] fuel
    else
      let item ← classRange
      classBody pending (item :: found) fuel

/-! ### Groups, repetitions and whole expressions -/

/-- What an opening parenthesis begins. -/
inductive Opening where
  | directive (change : FlagChange)
  | group (change : FlagChange)
  | capture (index : Nat)

def isLetter (c : Char) : Bool :=
  if c.toNat < 0x80 then c.isAlpha
  else Unicode.Property.alphabetic.contains c.toNat || Unicode.Recent.alphabetic.contains c.toNat

def isNumeric (c : Char) : Bool :=
  if c.toNat < 0x80 then c.isDigit
  else Unicode.Category.number.contains c.toNat || Unicode.Recent.number.contains c.toNat

/-- The characters of a group's name; fewer may begin it. -/
def isNameChar (isFirst : Bool) (c : Char) : Bool :=
  c = '_' || isLetter c ||
    (!isFirst && (c = '.' || c = '[' || c = ']' || isNumeric c))

/-- Reads the name of a group and its closing angle bracket. No two groups share a name. -/
def groupName (index : Nat) : Reading PUnit := do
  let s ← get
  let name := s.rest.takeWhile (· != '>')
  let text := String.ofList name
  match name, s.rest.dropWhile (· != '>') with
  | first :: others, '>' :: rest =>
    require (isNameChar true first && others.all (isNameChar false))
    require ((s.names.lookup text).isNone)
    set { s with rest, names := s.names ++ [(text, index)] }
  | _, _ => failure

def nextCapture : Reading Nat := do
  let s ← get
  set { s with nextIndex := s.nextIndex + 1 }
  return s.nextIndex

def flag? : Char → Option Flag
  | 'i' => some .caseInsensitive
  | 'm' => some .multiLine
  | 's' => some .dotMatchesNewline
  | 'U' => some .swapGreed
  | 'u' => some .unicode
  | 'R' => some .crlf
  | 'x' => some .ignoreWhitespace
  | _ => none

/-- Reads switches up to a colon or a closing parenthesis. A minus sign may stand once and before at
least one switch, and no switch stands twice. -/
def flagChange (enables : Bool) (dangling : Bool) (found : FlagChange) :
    (fuel : Nat) → Reading FlagChange
  | 0 => failure
  | fuel + 1 => do
    let c ← current
    if c = ':' || c = ')' then
      require (!dangling)
      return found.reverse
    advance
    if c = '-' then
      require enables
      flagChange false true found fuel
    else
      match flag? c with
      | none => failure
      | some f =>
        require ((found.position f).isNone)
        flagChange enables false ((f, enables) :: found) fuel

/-- Reads the opening of a group, from its parenthesis. -/
def opening : Reading Opening := do
  advanceSkipping
  if (← accept "?=") || (← accept "?!") || (← accept "?<=") || (← accept "?<!") then failure
  if (← accept "?P<") || (← accept "?<") then
    let index ← nextCapture
    groupName index
    return .capture index
  else if ← accept "?" then
    let change ← flagChange true false [] (← fuel)
    let c ← current
    advance
    if c = ')' then
      require (!change.isEmpty)
      return .directive change
    else return .group change
  else return .capture (← nextCapture)

/-- The form that a repetition applies to: the last one read, unless there is none or it only sets
switches. -/
def repeated : List Expression → Reading (Expression × List Expression)
  | [] => failure
  | .empty :: _ => failure
  | .flags _ :: _ => failure
  | e :: others => return (e, others)

/-- Reads decimal digits with blanks around them. -/
def decimalDigits (found : List Char) : (fuel : Nat) → Reading (List Char)
  | 0 => failure
  | fuel + 1 => do
    match ← peek with
    | some c =>
      if c.isDigit then
        advanceSkipping
        decimalDigits (c :: found) fuel
      else return found.reverse
    | none => return found.reverse

/-- Skips blanks, also where the expression does not ask for that. -/
def skipInner : Reading PUnit := modify fun s => { s with rest := s.rest.dropWhile isBlank }

/-- Reads a count, which fits 32 bits; it may be left out. -/
def count? : Reading (Option Nat) := do
  skipInner
  let ds ← decimalDigits [] (← fuel)
  skipInner
  skipBlanks
  skipInner
  if ds.isEmpty then return none
  let n := ds.foldl (fun n c => n * 10 + (c.toNat - '0'.toNat)) 0
  require (n < 0x100000000)
  return some n

/-- Reads a question mark that makes a repetition lazy. -/
def lazyMark : Reading Bool := accept "?"

/-- Reads a counted repetition, from its opening brace. -/
def countedRepetition (parts : List Expression) : Reading (List Expression) := do
  let (body, others) ← repeated parts
  advanceSkipping
  let _ ← current
  let least ← count?
  let c ← current
  let (lo, hi) ← (if c = ',' then do
      advanceSkipping
      let d ← current
      match least with
      | none => failure
      | some lo =>
        if d = '\x7d' then return (lo, none)
        match ← count? with
        | none => failure
        | some hi => return (lo, some hi)
    else
      match least with
      | none => failure
      | some lo => return (lo, some lo) : Reading (Nat × Option Nat))
  require ((← current) = '\x7d')
  advanceSkipping
  let isLazy ← lazyMark
  require (match hi with
    | some hi => lo ≤ hi
    | none => true)
  return .repetition body lo hi (!isLazy) :: others

/-- Reads one of the repetitions with a one-character mark. -/
def simpleRepetition (least : Nat) (most : Option Nat) (parts : List Expression) :
    Reading (List Expression) := do
  let (body, others) ← repeated parts
  advance
  let isLazy ← lazyMark
  return .repetition body least most (!isLazy) :: others

/-- Reads a form that is neither a group, a class, a repetition nor a bar. -/
def primitive : Reading Expression := do
  let c ← current
  match c with
  | '\\' =>
    match ← escapeSequence with
    | .literal l => return .literal l
    | .assertion a => return .assertion a
    | .short kind negated => return .short kind negated
    | .property query negated => return .property query negated
  | '.' =>
    advance
    return .dot
  | '^' =>
    advance
    return .assertion .lineStart
  | '$' =>
    advance
    return .assertion .lineEnd
  | _ =>
    advance
    return .literal ⟨c, false⟩

/-- The branches read so far with the last one, in the order of the notation. -/
def finishBranches (branches parts : List Expression) : Expression :=
  match branches with
  | [] => .ofParts parts.reverse
  | _ => .alternation (.ofParts parts.reverse :: branches).reverse

/-- Reads branches up to the end of the notation or a closing parenthesis. -/
def branchesFrom (branches parts : List Expression) : (fuel : Nat) → Reading Expression
  | 0 => failure
  | fuel + 1 => do
    skipBlanks
    match ← peek with
    | none => return finishBranches branches parts
    | some ')' => return finishBranches branches parts
    | some '|' =>
      advance
      branchesFrom (.ofParts parts.reverse :: branches) [] fuel
    | some '(' =>
      match ← opening with
      | .directive change =>
        modify fun s =>
          { s with skipsBlanks := (change.position .ignoreWhitespace).getD s.skipsBlanks }
        branchesFrom branches (.flags change :: parts) fuel
      | .group change =>
        let outer := (← get).skipsBlanks
        modify fun s => { s with skipsBlanks := (change.position .ignoreWhitespace).getD outer }
        let body ← branchesFrom [] [] fuel
        require (← accept ")")
        modify fun s => { s with skipsBlanks := outer }
        branchesFrom branches (.group change body :: parts) fuel
      | .capture index =>
        let outer := (← get).skipsBlanks
        let body ← branchesFrom [] [] fuel
        require (← accept ")")
        modify fun s => { s with skipsBlanks := outer }
        branchesFrom branches (.capture index body :: parts) fuel
    | some '[' =>
      let (negated, first) ← openBracket
      let body ← classBody none first (← Reading.fuel)
      branchesFrom branches (.bracketed negated body :: parts) fuel
    | some '?' => branchesFrom branches (← simpleRepetition 0 (some 1) parts) fuel
    | some '*' => branchesFrom branches (← simpleRepetition 0 none parts) fuel
    | some '+' => branchesFrom branches (← simpleRepetition 1 none parts) fuel
    | some '\x7b' => branchesFrom branches (← countedRepetition parts) fuel
    | some _ => branchesFrom branches ((← primitive) :: parts) fuel

end Reading

/-- Forms may nest this deep. -/
def maxDepth : Nat := 250

/-- An expression as read, with the names of its groups. -/
structure Parsed where
  expression : Expression
  names : List (String × Nat)

/-- Reads a whole notation. -/
def parse? (notation_ : List Char) : Option Parsed := do
  let start : Cursor := { rest := notation_, skipsBlanks := false, nextIndex := 1, names := [] }
  let (e, stop) ← (Reading.branchesFrom [] [] (notation_.length + 1)).run start
  if stop.rest.isEmpty && e.depth ≤ maxDepth then some ⟨e, stop.names⟩ else none

end PxeLaunch.Regex

import PxeLaunch.Script.Source

/-!
Reading words. What stands in quotes, in braces and in the text of a redirection is read by one
function, which is told what surrounds it. Scripts inside words are left to a reader of commands.
-/

set_option autoImplicit false

namespace PxeLaunch.Script

/-- What surrounds a text. -/
inductive Place where
  | bare
  | braces
  | quotes
  | quotedBraces
  | text
  | arithmetic (depth : Nat)

/-- Whether characters in a place are protected as in quotes. -/
def Place.isQuoted : Place → Bool
  | .bare => false
  | .braces => false
  | _ => true

/-- Whether a backslash in a place protects a character. In quotes it protects only what would not
stand for itself there. -/
def Place.protects (place : Place) (c : Char) : Bool :=
  match place with
  | .bare => true
  | .braces => true
  | .text => c = '$' || c = '\\' || isBackquote c
  | .quotedBraces => c = '$' || c = '\\' || c = '"' || c = '\x7d' || isBackquote c
  | _ => c = '$' || c = '\\' || c = '"' || isBackquote c

/-- The place of the word in an expansion in braces. -/
def Place.inner (quoted : Bool) : Place := if quoted then .quotedBraces else .braces

/-- Reads the commands of a script inside a word, which a parenthesis ends if it is one of the newer
way. -/
abbrev ScriptReader := (parenthesized : Bool) → Read Tree

/-- Reads up to a single quote. -/
def singleQuoted (found : Word) : (fuel : Nat) → Read Word
  | 0 => refuse .openQuotes
  | fuel + 1 => do
    match ← takeRaw with
    | some '\'' => return found
    | some c => singleQuoted (.char c true :: found) fuel
    | none => refuse .openQuotes

/-- The script between backquotes, after the first of them. -/
def backquoted (quoted : Bool) (found : Chars) : (fuel : Nat) → Read Chars
  | 0 => refuse .openBackquotes
  | fuel + 1 => do
    let _ ← peek
    match ← takeRaw with
    | none => refuse .openBackquotes
    | some '\\' =>
      match ← takeRaw with
      | some c =>
        if c = '$' || c = '\\' || isBackquote c || quoted && c = '"' then
          backquoted quoted (c :: found) fuel
        else backquoted quoted (c :: '\\' :: found) fuel
      | none => refuse .openBackquotes
    | some c =>
      if isBackquote c then return found.reverse else backquoted quoted (c :: found) fuel

/-- Reads the text of a place to its end. -/
abbrev TextReader := Place → Read Word

/-- Reads on after a parameter whose value is not asked for in any known way. -/
def malformed (texts : TextReader) (name : Chars) (quoted : Bool) : Read Part := do
  let _ ← texts (.inner quoted)
  return .parameter name .malformed quoted

/-- What is asked of a parameter whose name has been read, inside braces. -/
def readRequest (texts : TextReader) (name : Chars) (quoted : Bool) : Read Part := do
  let part (r : Request) : Part := .parameter name r quoted
  let colon ← takeIf ':'
  match ← peek with
  | some '-' => skip; return part (.fallback colon (← texts (.inner quoted)))
  | some '+' => skip; return part (.replacement colon (← texts (.inner quoted)))
  | some '=' => skip; return part (.assignment colon (← texts (.inner quoted)))
  | some '?' => skip; return part (.demand colon (← texts (.inner quoted)))
  | some c =>
    if colon then skip; malformed texts name quoted
    else if c = '\x7d' then skip; return part .value
    else if c = '%' || c = '#' then
      skip
      let longest ← takeIf c
      return part (.trimmed (c = '%') longest (← texts .braces))
    else malformed texts name quoted
  | none => malformed texts name quoted

/-- The length of a parameter, after the sign that asks for it. -/
def readLength (texts : TextReader) (name : Chars) (quoted : Bool) : Read Part := do
  if ← takeIf '\x7d' then return .parameter name .length quoted
  else malformed texts name quoted

/-- A parameter in braces, after the first of them. -/
def readBraced (texts : TextReader) (quoted : Bool) : Read Part := do
  let steps ← stepsLeft
  match ← peek with
  | none => malformed texts [] quoted
  | some c =>
    if isNameStart c then readRequest texts (← takeClass isName [] steps) quoted
    else if c.isDigit then readRequest texts (← takeClass Char.isDigit [] steps) quoted
    else if c = '\x7d' then malformed texts [] quoted
    else
      skip
      if c != '#' then
        if isSpecial c then readRequest texts [c] quoted else malformed texts [] quoted
      else match ← peek with
        | none => malformed texts [c] quoted
        | some d =>
          if isNameStart d then readLength texts (← takeClass isName [] steps) quoted
          else if d.isDigit then readLength texts (← takeClass Char.isDigit [] steps) quoted
          else if d = '\x7d' then readRequest texts [c] quoted
          else
            let after := (← get).rest.drop 1
            if isSpecial d && after.head? = some '\x7d' then
              skip
              readLength texts [d] quoted
            else readRequest texts [c] quoted

/-- What stands after a dollar sign. -/
def readDollar (scripts : ScriptReader) (texts : TextReader) (quoted : Bool) : Read Part := do
  let steps ← stepsLeft
  match ← peek with
  | some '(' =>
    skip
    if ← takeIf '(' then return .arithmetic (← texts (.arithmetic 0)) quoted
    else return .output (← scripts true) quoted
  | some '\x7b' => skip; readBraced texts quoted
  | some c =>
    if isNameStart c then return .parameter (← takeClass isName [] steps) .value quoted
    else if isSpecial c then skip; return .parameter [c] .value quoted
    else return .char '$' quoted
  | none => return .char '$' quoted

/-- What follows a character in a text: the text is over, or it goes on in a place after parts,
which stand in reverse order. -/
inductive Follow where
  | ends
  | goes (place : Place) (parts : List Part)

/-- What a character does that stands for itself. -/
def plainChar (place : Place) (c : Char) : Follow := .goes place [.char c place.isQuoted]

/-- Reads what begins with a character, which has been taken. -/
def readFrom (scripts : ScriptReader) (texts : TextReader) (place : Place) (c : Char) :
    Read Follow := do
  let steps ← stepsLeft
  let quoted := place.isQuoted
  match c with
  | '\\' =>
    match ← takeRaw with
    | none => return plainChar place c
    | some d =>
      let lead : List Part := if place.protects d then [] else [.char '\\' true]
      return .goes place (.char d true :: lead ++ if quoted then [] else [.quotes])
  | '$' => return .goes place [← readDollar scripts texts quoted]
  | '"' =>
    match place with
    | .quotes => return .ends
    | .text => return plainChar place c
    | .arithmetic _ => return plainChar place c
    | _ =>
      match ← texts .quotes with
      | [.parameter ['@'] .value true] => return .goes place [.parameter ['@'] .value true]
      | inner => return .goes place (inner.reverse ++ [.quotes])
  | '\'' =>
    if quoted then return plainChar place c
    else return .goes place ((← singleQuoted [] steps) ++ [.quotes])
  | '\x7d' =>
    match place with
    | .braces => return .ends
    | .quotedBraces => return .ends
    | _ => return plainChar place c
  | '(' =>
    match place with
    | .arithmetic n => return .goes (.arithmetic (n + 1)) [.char c true]
    | _ => return plainChar place c
  | ')' =>
    match place with
    | .arithmetic (n + 1) => return .goes (.arithmetic n) [.char c true]
    | .arithmetic 0 => if ← takeIf ')' then return .ends else return plainChar place c
    | _ => return plainChar place c
  | _ =>
    if isBackquote c then
      let script ← backquoted quoted [] steps
      return .goes place [.output (← aside (.ofText script) (scripts false)) quoted]
    else return plainChar place c

/-- What the end of a script means in a place. -/
def atEnd (found : Word) : Place → Read Word
  | .bare => return found.reverse
  | .text => return found.reverse
  | .braces => refuse .openBraces
  | .arithmetic _ => refuse .openArithmetic
  | _ => refuse .openQuotes

/-- Reads the text of a place to its end. A bare word ends before a character that ends words; all
other texts end with a character of their own. -/
def readText (scripts : ScriptReader) : (fuel : Nat) → (found : Word) → TextReader
  | 0, found, place => atEnd found place
  | fuel + 1, found, place => do
    match ← peek with
    | none => atEnd found place
    | some c =>
      let isBare : Bool := match place with
        | .bare => true
        | _ => false
      if isBare && endsWord c then return found.reverse
      else
        let _ ← takeRaw
        match ← readFrom scripts (readText scripts fuel []) place c with
        | .ends => return found.reverse
        | .goes place parts => readText scripts fuel (parts ++ found) place

/-- Reads a word. -/
def readWord (scripts : ScriptReader) : Read Word := do
  readText scripts (← stepsLeft) [] .bare

/-! ### Texts below a line -/

/-- The rest of a line, which quotes and backslashes may stretch over several, and what comes after
it. -/
def splitLine (quote : Option Char) (found : Chars) : Chars → Chars × Chars
  | [] => (found.reverse, [])
  | '\\' :: d :: rest =>
    if quote = some '\'' then splitLine quote ('\\' :: found) (d :: rest)
    else splitLine quote (d :: '\\' :: found) rest
  | c :: rest =>
    match quote with
    | some q => splitLine (if c = q then none else quote) (c :: found) rest
    | none =>
      if c = '\n' then (found.reverse, rest)
      else splitLine (if c = '\'' || c = '"' then some c else none) (c :: found) rest
  termination_by cs => cs.length

/-- The lines of a text up to one that is a certain line, and what comes after that. A line that is
joined to the one before it does not end the text. -/
def linesUntil (last : Chars) (tabs joins : Bool) (joined : Bool) (found : List Chars) :
    (fuel : Nat) → Chars → List Chars × Chars
  | 0, cs => (found.reverse, cs)
  | _, [] => (found.reverse, [])
  | fuel + 1, cs =>
    let whole := cs.takeWhile (· != '\n')
    let line := if tabs then whole.dropWhile (· = '\t') else whole
    let after := cs.drop (whole.length + 1)
    if line = last && !joined then (found.reverse, after)
    else
      let slashes := (whole.reverse.takeWhile (· = '\\')).length
      linesUntil last tabs joins (joins && slashes % 2 = 1) ((line ++ ['\n']) :: found) fuel after

/-- The text in the lines below that a word ends. The lines are taken out of the script; if no part
of the word is in quotes, what they hold is expanded. -/
def readBelow (scripts : ScriptReader) (tabs : Bool) (w : Word) : Read Word := do
  let last := w.filterMap fun
    | .char c _ => some c
    | _ => none
  let plain := (plainText? w).isNone
  let s ← get
  let (here, under) := splitLine none [] s.rest
  let (lines, beyond) := linesUntil last tabs (!plain) false [] (under.length + 1) under
  let taken := (under.take (under.length - beyond.length)).count '\n'
  let text := lines.flatten
  set { s with rest := here ++ '\n' :: beyond, below := s.below + taken }
  if plain then return .quotes :: text.map (.char · true)
  else
    let inner : Source := ⟨text, s.line + 1 + s.below, 0, none⟩
    return .quotes :: (← aside inner (readText scripts (text.length + 2) [] .text))

end PxeLaunch.Script

import PxeLaunch.Script.Format
import PxeLaunch.Script.Utility.Records.Value

/-!
The tokens of programs over records.
-/

set_option autoImplicit false

namespace PxeLaunch.Script.Records

inductive Token where
  | number (spelling : Chars)
  | text (cs : Chars)
  | name (cs : Chars)
  | function (name : Chars)
  | builtin (name : Chars) (b : Builtin)
  | word (name : String)
  | mark (spelling : String)
  | newline
  | finish
  | flawed (remark : Chars)

def words : List String :=
  ["BEGIN", "END", "function", "if", "else", "while", "for", "do", "break", "continue", "next",
   "nextfile", "exit", "return", "delete", "in", "getline", "print", "printf"]

/-- Marks, the longer ones first. -/
def marks : List String :=
  ["&&", "||", "++", "--", "+=", "-=", "*=", "/=", "%=", "^=", "==", "<=", ">=", "!=", "!~", ">>",
   "\x7b", "\x7d", "(", ")", "[", "]", ";", ",", "+", "-", "*", "/", "%", "^", "!", ">", "<", "|",
   "?", ":", "~", "$", "="]

/-- A token as errors show it. -/
def Token.shown : Token → Chars
  | .number spelling => spelling
  | .text cs => '"' :: cs ++ ['"']
  | .name cs => cs
  | .function cs => cs
  | .builtin cs _ => cs
  | .word w => w.toList
  | .mark spelling => spelling.toList
  | .newline => "end of line".toList
  | .finish => "end of file".toList
  | .flawed remark => remark

/-- What an escape in a text stands for, and what follows it. -/
def escapeInText : Chars → Chars × Chars
  | [] => (['\\'], [])
  | c :: rest =>
    if c = '"' then ([c], rest)
    else if c = '\n' then ([], rest)
    else if isOctal c then
      let digits := ((c :: rest).take 3).takeWhile isOctal
      ([charOfCode (natOf 8 digits)], (c :: rest).drop digits.length)
    else if c = 'x' && (rest.head?.any isHexDigit) then
      let digits := (rest.take 2).takeWhile isHexDigit
      ([charOfCode (natOf 16 digits)], rest.drop digits.length)
    else match if c = 'e' then none else escapeOf? c with
      | some e => ([e], rest)
      | none => (['\\', c], rest)

/-- A text after its opening quote, up to the closing one, and what follows that. -/
def quotedText (found : Chars) : (fuel : Nat) → Chars → Option (Chars × Chars)
  | 0, _ => none
  | _, [] => none
  | fuel + 1, c :: rest =>
    if c = '"' then some (found.reverse, rest)
    else if c = '\n' then none
    else if c = '\\' then
      let (out, after) := escapeInText rest
      quotedText (out.reverse ++ found) fuel after
    else quotedText (c :: found) fuel rest

/-- A text with its escapes replaced. -/
def textOfEscapes : (fuel : Nat) → Chars → Chars
  | 0, cs => cs
  | _, [] => []
  | fuel + 1, c :: rest =>
    if c = '\\' then
      let (out, after) := escapeInText rest
      out ++ textOfEscapes fuel after
    else c :: textOfEscapes fuel rest

/-- A regular expression after its opening slash, up to the closing one, and what follows that. -/
def slashedText (inSet : Bool) (found : Chars) : (fuel : Nat) → Chars → Option (Chars × Chars)
  | 0, _ => none
  | _, [] => none
  | fuel + 1, c :: rest =>
    match c, rest with
    | '\n', _ => none
    | '\\', '/' :: after => slashedText inSet ('/' :: found) fuel after
    | '\\', '"' :: after => slashedText inSet ('"' :: found) fuel after
    | '\\', d :: after => slashedText inSet (d :: '\\' :: found) fuel after
    | '[', _ =>
      if inSet then slashedText true (c :: found) fuel rest
      else match rest with
        | ']' :: after => slashedText true (']' :: '[' :: found) fuel after
        | '^' :: ']' :: after => slashedText true (']' :: '^' :: '[' :: found) fuel after
        | _ => slashedText true (c :: found) fuel rest
    | ']', _ => slashedText false (c :: found) fuel rest
    | '/', _ =>
      if inSet then slashedText true (c :: found) fuel rest else some (found.reverse, rest)
    | _, _ => slashedText inSet (c :: found) fuel rest

/-- The spelling of a number at the front of a text. -/
def numberSpelling (cs : Chars) : Chars :=
  let whole := cs.takeWhile Char.isDigit
  let rest := cs.drop whole.length
  let places := match rest with
    | '.' :: ds => '.' :: ds.takeWhile Char.isDigit
    | _ => []
  let rest := rest.drop places.length
  let power := match rest with
    | e :: more =>
      let sign := more.take 1 |>.filter fun c => c = '+' || c = '-'
      let digits := (more.drop sign.length).takeWhile Char.isDigit
      if (e = 'e' || e = 'E') && !digits.isEmpty then e :: sign ++ digits else []
    | [] => []
  whole ++ places ++ power

def isNameStart (c : Char) : Bool := c.isAlpha || c = '_'

def isNameChar (c : Char) : Bool := c.isAlphanum || c = '_'

/-- What precedes the next token, with the number of lines that end in it: blanks, remarks, and
newlines after a backslash. -/
def skipped (lines : Nat) : (fuel : Nat) → Chars → Nat × Chars
  | 0, cs => (lines, cs)
  | fuel + 1, cs =>
    match cs with
    | '\\' :: '\n' :: rest => skipped (lines + 1) fuel rest
    | '#' :: rest => skipped lines fuel (rest.dropWhile (· != '\n'))
    | c :: rest =>
      if c != '\n' && isSpace c then skipped lines fuel rest else (lines, cs)
    | [] => (lines, cs)

/-- The token at the front of a text, and what follows it. -/
def Token.atFront (cs : Chars) : Token × Chars :=
  match cs with
  | [] => (.finish, [])
  | '\n' :: rest => (.newline, rest)
  | '"' :: rest =>
    match quotedText [] (rest.length + 1) rest with
    | some (found, after) => (.text found, after)
    | none =>
      (.flawed ("runaway string constant ".toList ++ cs.take 11 ++ " ...".toList), [])
  | c :: rest =>
    if c.isDigit || c = '.' && (rest.head?.any Char.isDigit) then
      let spelling := numberSpelling cs
      (.number spelling, cs.drop spelling.length)
    else if isNameStart c then
      let name := cs.takeWhile isNameChar
      let after := cs.drop name.length
      let spelled := String.ofList name
      if words.contains spelled then (.word spelled, after)
      else match Builtin.ofName? spelled with
        | some b => (.builtin name b, after)
        | none => if after.head? = some '(' then (.function name, after) else (.name name, after)
    else match marks.find? fun m => m.toList.isPrefixOf cs with
      | some m => (.mark m, cs.drop m.length)
      | none => (.flawed ("unexpected character '".toList ++ [c, '\'']), rest)

end PxeLaunch.Script.Records

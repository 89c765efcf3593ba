/-!
Strings. A document may write a string on one line or on several, and with escapes (basic) or
without (literal). The writer takes the first style that needs no escapes, in the order basic,
literal, basic on several lines, literal on several lines, and escapes only if none fits. Reading
the written form of a string gives the string.
-/

set_option autoImplicit false

namespace PxeLaunch.Toml.Text

/-- Blanks between the parts of a line. -/
def isBlank (c : Char) : Bool := c = ' ' || c = '\t'

/-- The characters that may stand in a string or a comment, apart from newlines. -/
def isPlain (c : Char) : Bool := c = '\t' || (0x20 ≤ c.toNat && c.toNat != 0x7F)

/-- The characters that stand for themselves in a basic string. -/
def isBasic (c : Char) : Bool := isPlain c && c != '"' && c != '\\'

/-- The characters that stand for themselves in a literal string. -/
def isLiteral (c : Char) : Bool := isPlain c && c != '\''

/-! ### Reading -/

/-- The value of a hexadecimal digit. -/
def hexDigit? (c : Char) : Option Nat :=
  if '0' ≤ c && c ≤ '9' then some (c.toNat - '0'.toNat)
  else if 'a' ≤ c && c ≤ 'f' then some (c.toNat - 'a'.toNat + 10)
  else if 'A' ≤ c && c ≤ 'F' then some (c.toNat - 'A'.toNat + 10)
  else none

/-- The number that hexadecimal digits spell. -/
def hexValue? (digits : List Char) : Option Nat :=
  digits.foldl (fun n c => n.bind fun n => (hexDigit? c).map (n * 16 + ·)) (some 0)

/-- The character with a code point; surrogates are none. -/
def charOf? (n : Nat) : Option Char :=
  if n < 0xD800 || (0xE000 ≤ n && n < 0x110000) then some (Char.ofNat n) else none

/-- A character given by a fixed number of hexadecimal digits. -/
def codePoint? (count : Nat) (cs : List Char) : Option (Char × Nat) :=
  let digits := cs.take count
  if digits.length = count then
    ((hexValue? digits).bind charOf?).map fun c => (c, count + 1)
  else none

/-- The character that an escape stands for, and the number of characters after the backslash. -/
def escape? : List Char → Option (Char × Nat)
  | 'b' :: _ => some ('\x08', 1)
  | 't' :: _ => some ('\t', 1)
  | 'n' :: _ => some ('\n', 1)
  | 'f' :: _ => some ('\x0c', 1)
  | 'r' :: _ => some ('\r', 1)
  | '"' :: _ => some ('"', 1)
  | '\\' :: _ => some ('\\', 1)
  | 'u' :: rest => codePoint? 4 rest
  | 'U' :: rest => codePoint? 8 rest
  | _ => none

/-- Reads a basic string up to its closing quote; `skip` characters belong to the last escape. -/
def basicFrom (found : List Char) : (skip : Nat) → List Char → Option (List Char × List Char)
  | _, [] => none
  | skip + 1, _ :: rest => basicFrom found skip rest
  | 0, c :: rest =>
    if c = '"' then some (found.reverse, rest)
    else if c = '\\' then
      match escape? rest with
      | some (e, n) => basicFrom (e :: found) n rest
      | none => none
    else if isBasic c then basicFrom (c :: found) 0 rest
    else none

/-- Reads a literal string up to its closing quote. -/
def literalFrom (found : List Char) : List Char → Option (List Char × List Char)
  | [] => none
  | c :: rest =>
    if c = '\'' then some (found.reverse, rest)
    else if isLiteral c then literalFrom (c :: found) rest
    else none

/-- A newline, which may have a carriage return before it, and the number of its characters. -/
def newline? : List Char → Option Nat
  | '\n' :: _ => some 1
  | '\r' :: '\n' :: _ => some 2
  | _ => none

/-- Up to two quotes that belong to a string stand right before its closing delimiter, which is
found last; they follow the first three quotes of the run. -/
def closing (quote : Char) (found : List Char) (rest : List Char) : List Char × List Char :=
  match rest with
  | a :: b :: after =>
    if a = quote then
      if b = quote then ((quote :: quote :: found).reverse, after)
      else ((quote :: found).reverse, b :: after)
    else (found.reverse, rest)
  | [a] => if a = quote then ((quote :: found).reverse, []) else (found.reverse, rest)
  | [] => (found.reverse, [])

/-- The characters after three quotes, if the text begins with two more after the current one. -/
def delimiter? (quote : Char) : List Char → Option (List Char)
  | a :: b :: after => if a = quote && b = quote then some after else none
  | _ => none

/-- Reads a basic string of several lines. While `trims` is set, blanks and newlines after a
backslash at the end of a line are left out. -/
def longBasicFrom (found : List Char) (trims : Bool) :
    (skip : Nat) → List Char → Option (List Char × List Char)
  | _, [] => none
  | skip + 1, _ :: rest => longBasicFrom found trims skip rest
  | 0, c :: rest =>
    if trims && (isBlank c || (newline? (c :: rest)).isSome) then
      longBasicFrom found true ((newline? (c :: rest)).getD 1 - 1) rest
    else if c = '"' then
      match delimiter? '"' rest with
      | some after => some (closing '"' found after)
      | none => longBasicFrom ('"' :: found) false 0 rest
    else if c = '\\' then
      match newline? (rest.dropWhile isBlank) with
      | some n => longBasicFrom found true ((rest.takeWhile isBlank).length + n) rest
      | none =>
        match escape? rest with
        | some (e, n) => longBasicFrom (e :: found) false n rest
        | none => none
    else match newline? (c :: rest) with
      | some n => longBasicFrom ('\n' :: found) false (n - 1) rest
      | none => if isBasic c then longBasicFrom (c :: found) false 0 rest else none

/-- Reads a literal string of several lines. -/
def longLiteralFrom (found : List Char) :
    (skip : Nat) → List Char → Option (List Char × List Char)
  | _, [] => none
  | skip + 1, _ :: rest => longLiteralFrom found skip rest
  | 0, c :: rest =>
    if c = '\'' then
      match delimiter? '\'' rest with
      | some after => some (closing '\'' found after)
      | none => longLiteralFrom ('\'' :: found) 0 rest
    else match newline? (c :: rest) with
      | some n => longLiteralFrom ('\n' :: found) (n - 1) rest
      | none => if isLiteral c then longLiteralFrom (c :: found) 0 rest else none

/-- The text without a newline right at its start. -/
def dropNewline (cs : List Char) : List Char := cs.drop ((newline? cs).getD 0)

/-- Reads a string in any of the four forms, from its first quote. -/
def read? : List Char → Option (List Char × List Char)
  | '"' :: rest =>
    match delimiter? '"' rest with
    | some after => longBasicFrom [] false 0 (dropNewline after)
    | none => basicFrom [] 0 rest
  | '\'' :: rest =>
    match delimiter? '\'' rest with
    | some after => longLiteralFrom [] 0 (dropNewline after)
    | none => literalFrom [] rest
  | _ => none

/-- Reads a string that stands for a key, which takes one line. -/
def readKey? : List Char → Option (List Char × List Char)
  | '"' :: rest => basicFrom [] 0 rest
  | '\'' :: rest => literalFrom [] rest
  | _ => none

/-! ### Writing -/

/-- Control characters other than tab and newline. -/
def isControl (c : Char) : Bool :=
  (c.toNat < 0x20 && c != '\t' && c != '\n') || c.toNat = 0x7F

/-- The length of the longest run of a character, given the run before the text. -/
def longestRun (c : Char) (current : Nat) : List Char → Nat
  | [] => current
  | d :: rest =>
    if d = c then longestRun c (current + 1) rest else max current (longestRun c 0 rest)

/-- How a string is written. -/
inductive Style where
  | basic
  | literal
  | longBasic
  | longLiteral
  deriving Repr, DecidableEq

/-- The first style that holds the string without escapes, or else one that can escape. -/
def styleOf (cs : List Char) : Style :=
  let control := cs.any isControl
  let newline := cs.contains '\n'
  let backslash := cs.contains '\\'
  if !control && !backslash && !cs.contains '"' && !newline then .basic
  else if !control && !cs.contains '\'' && !newline then .literal
  else if !control && !backslash && longestRun '"' 0 cs < 3 then .longBasic
  else if !control && longestRun '\'' 0 cs < 3 then .longLiteral
  else if newline then .longBasic
  else .basic

/-- A hexadecimal digit in upper case. -/
def upperHex (n : Nat) : Char :=
  if n < 10 then Char.ofNat (n + '0'.toNat) else Char.ofNat (n - 10 + 'A'.toNat)

/-- A control character by its code point. -/
def controlEscape (c : Char) : List Char :=
  ['\\', 'u', '0', '0', upperHex (c.toNat / 16), upperHex (c.toNat % 16)]

/-- A character of a basic string. Newlines stay in the long form, and so do quotes. -/
def escapeChar (long : Bool) (c : Char) : List Char :=
  if c = '\x08' then ['\\', 'b']
  else if c = '\t' then ['\\', 't']
  else if c = '\x0c' then ['\\', 'f']
  else if c = '\r' then ['\\', 'r']
  else if c = '\\' then ['\\', '\\']
  else if c = '\n' then (if long then ['\n'] else ['\\', 'n'])
  else if c = '"' then (if long then ['"'] else ['\\', '"'])
  else if isControl c then controlEscape c
  else [c]

/-- The inside of a basic string. In the long form the third quote of a run is escaped; `quotes` is
the length of the run so far. -/
def escapeFrom (long : Bool) (quotes : Nat) : List Char → List Char
  | [] => []
  | c :: rest =>
    if long && c = '"' then
      if quotes = 2 then '\\' :: '"' :: escapeFrom long 0 rest
      else '"' :: escapeFrom long (quotes + 1) rest
    else escapeChar long c ++ escapeFrom long 0 rest

/-- A newline after the opening delimiter, for a string that holds one. -/
def openingNewline (cs : List Char) : List Char := if cs.contains '\n' then ['\n'] else []

/-- The written form of a string. -/
def write (cs : List Char) : List Char :=
  match styleOf cs with
  | .basic => '"' :: (escapeFrom false 0 cs ++ ['"'])
  | .literal => '\'' :: (cs ++ ['\''])
  | .longBasic =>
    '"' :: '"' :: '"' :: (openingNewline cs ++ escapeFrom true 0 cs ++ ['"', '"', '"'])
  | .longLiteral => '\'' :: '\'' :: '\'' :: (openingNewline cs ++ cs ++ ['\'', '\'', '\''])

end PxeLaunch.Toml.Text

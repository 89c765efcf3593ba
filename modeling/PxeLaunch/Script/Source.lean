import PxeLaunch.Script.CharClass

/-!
Scripts that are being read: the characters that are left, the line that they stand on, the token
that has been looked at, and what can be wrong with a script.
-/

set_option autoImplicit false

namespace PxeLaunch.Script

/-! ### Characters -/

def isNameStart (c : Char) : Bool := c.isAlpha || c = '_'

def isName (c : Char) : Bool := c.isAlphanum || c = '_'

/-- Whether characters can be the name of a variable. -/
def isGoodName (cs : Chars) : Bool := (cs.head?.any isNameStart) && cs.all isName

/-- Parameters whose names are no letters. -/
def isSpecial (c : Char) : Bool := "!#$*-?@".toList.contains c || c.isDigit

/-- The characters that end a word. -/
def endsWord (c : Char) : Bool := isBlank c || "\n;&|()<>".toList.contains c

/-- The character that encloses a script in the older way. -/
def isBackquote (c : Char) : Bool := c.toNat = 0x60

/-! ### Tokens -/

/-- A token. Words that are keywords are told from others only where a command may begin or end. -/
inductive Token where
  | finish
  | newline
  | sign (text : String)
  | redirect (descriptor : Nat) (sign : String)
  | word (w : Word)
  | keyword (name : String)

/-- The name of a token in a complaint. -/
def Token.shown : Token → String
  | .finish => "end of file"
  | .newline => "newline"
  | .sign text => "\"" ++ text ++ "\""
  | .redirect _ _ => "redirection"
  | .word _ => "word"
  | .keyword name => "\"" ++ name ++ "\""

def keywords : List String :=
  ["!", "case", "do", "done", "elif", "else", "esac", "fi", "for", "if", "in", "then", "until",
   "while", "\x7b", "\x7d"]

/-- The token as one that may be a keyword. -/
def Token.checked : Token → Token
  | .word w =>
    match plainText? w with
    | some cs =>
      let name := String.ofList cs
      if keywords.contains name then .keyword name else .word w
    | none => .word w
  | t => t

/-- The token as a word, which a keyword can be, too. -/
def Token.word? : Token → Option Word
  | .word w => some w
  | .keyword name => some (name.toList.map (.char · false))
  | _ => none

def Token.isSign (text : String) : Token → Bool
  | .sign t => t == text
  | _ => false

def Token.isKeyword (name : String) : Token → Bool
  | .keyword k => k == name
  | _ => false

/-- Whether a list of commands ends before a token. -/
def Token.endsList : Token → Bool
  | .finish => true
  | .sign text => text == ")" || text == ";;"
  | .keyword name => ["do", "done", "elif", "else", "esac", "fi", "then", "\x7d"].contains name
  | _ => false

/-! ### What is wrong with a script -/

/-- What is wrong with a script. -/
inductive Flaw where
  | unexpected (found : String) (expected : Option String)
  | openQuotes
  | openBackquotes
  | openBraces
  | openArithmetic
  | functionName
  | loopVariable

def Flaw.message : Flaw → String
  | .unexpected found none => found ++ " unexpected"
  | .unexpected found (some expected) => found ++ " unexpected (expecting " ++ expected ++ ")"
  | .openQuotes => "Unterminated quoted string"
  | .openBackquotes => "EOF in backquote substitution"
  | .openBraces => "Missing '\x7d'"
  | .openArithmetic => "Missing '))'"
  | .functionName => "Bad function name"
  | .loopVariable => "Bad for loop variable"

/-- A flaw and the line that it was found on. -/
structure SyntaxError where
  line : Nat
  flaw : Flaw

/-! ### Reading -/

/-- A script that is being read. The lines below the present one that have been taken as the text
of a redirection are counted. -/
structure Source where
  rest : Chars
  line : Nat
  below : Nat
  ahead : Option Token

def Source.ofText (cs : Chars) : Source := ⟨cs, 1, 0, none⟩

/-- Reads something. -/
abbrev Read (α : Type) := StateT Source (Except SyntaxError) α

/-- Finds a flaw. -/
def refuse {α : Type} (flaw : Flaw) : Read α := fun s => .error ⟨s.line, flaw⟩

/-- Finds a token where there should be none like it. -/
def unexpected {α : Type} (found : Token) (expected : Option Token) : Read α :=
  refuse (.unexpected found.shown (expected.map Token.shown))

/-- Characters without the joined line ends at the front, and the line after those. -/
def passJoins (line : Nat) : Chars → Chars × Nat
  | '\\' :: '\n' :: rest => passJoins (line + 1) rest
  | cs => (cs, line)

/-- Characters without the blanks and the remark at the front, and the line after those. -/
def passBlanks (line : Nat) : Chars → Chars × Nat
  | '\\' :: '\n' :: rest => passBlanks (line + 1) rest
  | c :: rest =>
    if isBlank c then passBlanks line rest
    else if c = '#' then (rest.dropWhile (· != '\n'), line)
    else (c :: rest, line)
  | [] => ([], line)

/-- The next character, past joined line ends. -/
def peek : Read (Option Char) := do
  let s ← get
  let (rest, line) := passJoins s.line s.rest
  set { s with rest := rest, line := line }
  return rest.head?

/-- Takes the next character as it is. -/
def takeRaw : Read (Option Char) := do
  let s ← get
  match s.rest with
  | c :: rest =>
    set { s with rest := rest, line := if c = '\n' then s.line + 1 else s.line }
    return some c
  | [] => return none

/-- Takes the character that has been looked at. -/
def skip : Read Unit := modify fun s => { s with rest := s.rest.drop 1 }

/-- Takes the next character if it is a certain one. -/
def takeIf (c : Char) : Read Bool := do
  if (← peek) = some c then
    skip
    return true
  else return false

/-- Takes characters of a class, past joined line ends. -/
def takeClass (isIn : Char → Bool) (found : Chars) : (fuel : Nat) → Read Chars
  | 0 => return found.reverse
  | fuel + 1 => do
    match ← peek with
    | some c =>
      if isIn c then
        skip
        takeClass isIn (c :: found) fuel
      else return found.reverse
    | none => return found.reverse

/-- More steps than can be taken with the characters that are left. -/
def stepsLeft : Read Nat := do return (← get).rest.length + 2

/-- Gives a token back. -/
def pushBack (t : Token) : Read Unit := modify fun s => { s with ahead := some t }

/-- Reads another text, and then goes on with this one. -/
def aside {α : Type} (inner : Source) (read : Read α) : Read α := fun s =>
  (read inner).map fun (x, _) => (x, s)

end PxeLaunch.Script

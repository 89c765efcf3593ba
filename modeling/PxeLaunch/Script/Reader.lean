import PxeLaunch.Script.Word

/-!
Reading commands. Tokens are cut off as they are needed, since where a token stands decides whether
it is a keyword. The readers of larger things take a reader of smaller ones; the fuel of that is the
number of characters, of which every few steps take one.
-/

set_option autoImplicit false

namespace PxeLaunch.Script

/-- Where a list of commands stands: on a line of its own, inside a command, or where it may be
empty. -/
inductive Extent where
  | line
  | inside
  | arm

/-- What can be read. -/
inductive Goal where
  | list (extent : Extent)
  | command

/-- A reader of commands. -/
abbrev Reader := Goal → Read Tree

/-! ### Tokens -/

/-- The script inside a word. -/
def readScript (self : Reader) : ScriptReader := fun parenthesized => do
  let t ← self (.list .arm)
  if !parenthesized then return t
  let s ← get
  match s.ahead with
  | some found =>
    if found.isSign ")" then
      set { s with ahead := none }
      return t
    else unexpected found (some (.sign ")"))
  | none => return t

/-- The sign at the front, the longest first. -/
def signAt? (cs : Chars) : Option String :=
  ["&&", "||", ";;", "&", "|", ";", "(", ")"].find? fun sign => sign.toList.isPrefixOf cs

/-- The sign of a redirection at the front, the longest first. -/
def redirectAt? (cs : Chars) : Option String :=
  ["<<-", "<<", "<&", "<>", "<", ">>", ">&", ">|", ">"].find? fun sign =>
    sign.toList.isPrefixOf cs

/-- Cuts off the next token. -/
def cutToken (self : Reader) : Read Token := do
  let s ← get
  let (rest, line) := passBlanks s.line s.rest
  let s : Source := { s with rest := rest, line := line }
  set s
  match rest with
  | [] => return .finish
  | '\n' :: after =>
    set { s with rest := after, line := line + 1 + s.below, below := 0 }
    return .newline
  | c :: after =>
    match signAt? rest, redirectAt? rest, if c.isDigit then redirectAt? after else none with
    | some sign, _, _ =>
      set { s with rest := rest.drop sign.length }
      return .sign sign
    | none, some sign, _ =>
      set { s with rest := rest.drop sign.length }
      return .redirect (if sign.startsWith "<" then 0 else 1) sign
    | none, none, some sign =>
      set { s with rest := after.drop sign.length }
      return .redirect (c.toNat - '0'.toNat) sign
    | none, none, none => return .word (← readWord (readScript self))

/-- Takes the next token, which may be a keyword or not. -/
def takeToken (self : Reader) (mayBeKeyword : Bool) : Read Token := do
  let s ← get
  let t ← match s.ahead with
    | some t =>
      set { s with ahead := none }
      pure t
    | none => cutToken self
  return if mayBeKeyword then t.checked else t

/-- Takes the next token after newlines, which may be a keyword. -/
def takeBelow (self : Reader) : (fuel : Nat) → Read Token
  | 0 => return .finish
  | fuel + 1 => do
    match ← takeToken self true with
    | .newline => takeBelow self fuel
    | t => return t

/-- Takes the next token after newlines. -/
def nextBelow (self : Reader) : Read Token := do takeBelow self (← stepsLeft)

/-- Takes a keyword that has to come next. -/
def expectKeyword (self : Reader) (name : String) : Read Unit := do
  let t ← takeToken self true
  if t.isKeyword name then return () else unexpected t (some (.keyword name))

/-! ### Redirections -/

/-- What the sign of a redirection calls for. -/
def directionOf (sign : String) : Direction :=
  match sign with
  | "<" => .input
  | ">>" => .appended
  | ">|" => .overwritten
  | "<>" => .both
  | ">&" => .duplicate
  | "<&" => .duplicate
  | "<<" => .text
  | "<<-" => .text
  | _ => .output

/-- Reads the target of a redirection, whose sign has been read. -/
def readTarget (self : Reader) (descriptor : Nat) (sign : String) : Read Redirect := do
  match ← takeToken self false with
  | .word w =>
    let direction := directionOf sign
    if direction = .text then
      return .mk descriptor .text (← readBelow (readScript self) (sign == "<<-") w)
    else return .mk descriptor direction w
  | t => unexpected t none

/-- Reads redirections after a command. -/
def readRedirects (self : Reader) (found : List Redirect) : (fuel : Nat) → Read (List Redirect)
  | 0 => return found.reverse
  | fuel + 1 => do
    match ← takeToken self true with
    | .redirect descriptor sign =>
      readRedirects self ((← readTarget self descriptor sign) :: found) fuel
    | t =>
      pushBack t
      return found.reverse

/-! ### Simple commands -/

/-- The name and the value of a word that assigns. -/
def assignment? (w : Word) : Option (Chars × Word) :=
  let lead := w.takeWhile fun
    | .char c false => isName c
    | _ => false
  match plainText? lead, w.drop lead.length with
  | some name, .char '=' false :: value => if isGoodName name then some (name, value) else none
  | _, _ => none

/-- Names that no function may have. -/
def reservedNames : List String :=
  ["break", "continue", "eval", "exec", "exit", "export", "readonly", "return", "set", "shift",
   "times", "trap", "unset"]

/-- A function, whose name and opening parenthesis have been read. -/
def readFunction (self : Reader) (w : Word) : Read Tree := do
  let t ← takeToken self false
  if t.isSign ")" then
    match plainText? w with
    | some name =>
      if isGoodName name && !reservedNames.contains (String.ofList name) then
        let line := (← get).line
        pushBack (← nextBelow self)
        return .definition line name (← self .command)
      else refuse .functionName
    | none => refuse .functionName
  else unexpected t (some (.sign ")"))

/-- What has been read of a simple command, the latest first. -/
structure Simple where
  line : Nat
  assignments : List (Chars × Word)
  words : List Word
  redirects : List Redirect

def Simple.tree (c : Simple) : Tree :=
  .simple c.line c.assignments.reverse c.words.reverse c.redirects.reverse

/-- A simple command, or the definition of a function. -/
def readSimple (self : Reader) (c : Simple) : (fuel : Nat) → Read Tree
  | 0 => return c.tree
  | fuel + 1 => do
    match ← takeToken self false with
    | .word w =>
      match if c.words.isEmpty then assignment? w else none with
      | some a => readSimple self { c with assignments := a :: c.assignments } fuel
      | none => readSimple self { c with words := w :: c.words } fuel
    | .redirect descriptor sign =>
      let r ← readTarget self descriptor sign
      readSimple self { c with redirects := r :: c.redirects } fuel
    | t =>
      match t.isSign "(", c with
      | true, ⟨_, [], [w], []⟩ => readFunction self w
      | _, _ =>
        pushBack t
        return c.tree

/-! ### Commands of several parts -/

/-- The branches of a choice, after the word that begins it. -/
def readChoice (self : Reader) : (fuel : Nat) → Read Tree
  | 0 => return .nothing
  | fuel + 1 => do
    let condition ← self (.list .inside)
    expectKeyword self "then"
    let yes ← self (.list .inside)
    let t ← takeToken self true
    if t.isKeyword "elif" then return .choice condition yes (← readChoice self fuel)
    else if t.isKeyword "else" then
      let no ← self (.list .inside)
      expectKeyword self "fi"
      return .choice condition yes no
    else if t.isKeyword "fi" then return .choice condition yes .nothing
    else unexpected t (some (.keyword "fi"))

/-- The words of a loop, up to the end of the line, and the token that ends them. -/
def readItems (self : Reader) (found : List Word) : (fuel : Nat) → Read (List Word)
  | 0 => return found.reverse
  | fuel + 1 => do
    match ← takeToken self false with
    | .word w => readItems self (w :: found) fuel
    | .newline => return found.reverse
    | t => if t.isSign ";" then return found.reverse else unexpected t none

/-- A loop over words, after the word that begins it. -/
def readEach (self : Reader) : Read Tree := do
  match ← takeToken self false with
  | .word w =>
    match plainText? w with
    | some name =>
      if !isGoodName name then refuse .loopVariable
      let line := (← get).line
      let t ← nextBelow self
      let words ←
        if t.isKeyword "in" then readItems self [] (← stepsLeft)
        else
          if !t.isSign ";" then pushBack t
          pure [[.parameter ['@'] .value true]]
      let t ← nextBelow self
      if t.isKeyword "do" then
        let body ← self (.list .inside)
        expectKeyword self "done"
        return .each line name words body
      else unexpected t (some (.keyword "do"))
    | none => refuse .loopVariable
  | _ => refuse .loopVariable

/-- The patterns of an arm, of which the first has been read, up to the parenthesis after them. -/
def readPatterns (self : Reader) (found : List Word) : (fuel : Nat) → Read (List Word)
  | 0 => return found.reverse
  | fuel + 1 => do
    let t ← takeToken self false
    if t.isSign ")" then return found.reverse
    else if t.isSign "|" then
      let next ← takeToken self false
      readPatterns self ((next.word?.getD []) :: found) fuel
    else unexpected t (some (.sign ")"))

/-- The arms of a choice by patterns. -/
def readArms (self : Reader) (found : List (List Word × Tree)) :
    (fuel : Nat) → Read (List (List Word × Tree))
  | 0 => return found.reverse
  | fuel + 1 => do
    let t ← nextBelow self
    if t.isKeyword "esac" then return found.reverse
    let first ← if t.isSign "(" then takeToken self false else pure t
    let patterns ← readPatterns self [first.word?.getD []] (← stepsLeft)
    let body ← self (.list .arm)
    let arms := (patterns, body) :: found
    let t ← nextBelow self
    if t.isKeyword "esac" then return arms.reverse
    else if t.isSign ";;" then readArms self arms fuel
    else unexpected t (some (.sign ";;"))

/-- A choice by patterns, after the word that begins it. -/
def readCases (self : Reader) : Read Tree := do
  let line := (← get).line
  match ← takeToken self false with
  | .word w =>
    let t ← nextBelow self
    if t.isKeyword "in" then return .cases line w (← readArms self [] (← stepsLeft))
    else unexpected t (some (.keyword "in"))
  | t => unexpected t (some (.word []))

/-- A loop, after the word that begins it. -/
def readLoop (self : Reader) (stopsAt : Bool) : Read Tree := do
  let condition ← self (.list .inside)
  expectKeyword self "do"
  let body ← self (.list .inside)
  expectKeyword self "done"
  return .loop stopsAt condition body

/-- A command with the redirections after it. Those of a subshell that stands alone in braces take
the place of its own. -/
def withRedirects (self : Reader) (line : Nat) (t : Tree) : Read Tree := do
  let redirects ← readRedirects self [] (← stepsLeft)
  if redirects.isEmpty then return t
  else match t with
    | .subshell line t _ => return .subshell line t redirects
    | t => return .redirected line t redirects

/-- One command. -/
def readCommand (self : Reader) : Read Tree := do
  let t ← takeToken self true
  let line := (← get).line
  match t with
  | .keyword "if" => withRedirects self line (← readChoice self (← stepsLeft))
  | .keyword "while" => withRedirects self line (← readLoop self false)
  | .keyword "until" => withRedirects self line (← readLoop self true)
  | .keyword "for" => withRedirects self line (← readEach self)
  | .keyword "case" => withRedirects self line (← readCases self)
  | .keyword "\x7b" =>
    let body ← self (.list .inside)
    expectKeyword self "\x7d"
    withRedirects self line body
  | .sign "(" =>
    let body ← self (.list .inside)
    let t ← takeToken self true
    if t.isSign ")" then
      return .subshell line body (← readRedirects self [] (← stepsLeft))
    else unexpected t (some (.sign ")"))
  | .word _ =>
    pushBack t
    readSimple self ⟨line, [], [], []⟩ (← stepsLeft)
  | .redirect _ _ =>
    pushBack t
    readSimple self ⟨line, [], [], []⟩ (← stepsLeft)
  | _ => unexpected t none

/-! ### Lists of commands -/

/-- The stages of a pipeline after the first one. -/
def readStages (self : Reader) (found : List Tree) : (fuel : Nat) → Read (List Tree)
  | 0 => return found.reverse
  | fuel + 1 => do
    let t ← takeToken self false
    if t.isSign "|" then
      pushBack (← nextBelow self)
      readStages self ((← self .command) :: found) fuel
    else
      pushBack t
      return found.reverse

/-- Commands that feed one another. -/
def readPipeline (self : Reader) : Read Tree := do
  let t ← takeToken self true
  let negated := t.isKeyword "!"
  if !negated then pushBack t
  let first ← self .command
  let stages ← readStages self [first] (← stepsLeft)
  let t := match stages with
    | [only] => only
    | _ => .pipeline stages
  return if negated then .negated t else t

/-- Pipelines with signs of conjunction and disjunction between them, which bind to the left. -/
def readChain (self : Reader) (first : Tree) : (fuel : Nat) → Read Tree
  | 0 => return first
  | fuel + 1 => do
    let t ← takeToken self false
    if t.isSign "&&" then
      pushBack (← nextBelow self)
      readChain self (.both first (← readPipeline self)) fuel
    else if t.isSign "||" then
      pushBack (← nextBelow self)
      readChain self (.either first (← readPipeline self)) fuel
    else
      pushBack t
      return first

/-- The commands that have been read, the latest first, as one. -/
def joined (found : List Tree) : Tree :=
  match found with
  | [only] => only
  | _ => .sequence found.reverse

/-- Commands up to a token that none begins with. A line ends at its newline, other lists go on
after it. -/
def readList (self : Reader) (extent : Extent) (found : List Tree) : (fuel : Nat) → Read Tree
  | 0 => return joined found
  | fuel + 1 => do
    let isLine : Bool := match extent with
      | .line => true
      | _ => false
    let mayEnd : Bool := match extent with
      | .line => false
      | .inside => !found.isEmpty
      | .arm => true
    let t ← if isLine then takeToken self true else nextBelow self
    match t with
    | .newline => return joined found
    | .finish =>
      pushBack .finish
      return joined found
    | t =>
      pushBack t
      if mayEnd && t.endsList then return joined found
      let line := (← get).line
      let steps ← stepsLeft
      let command ← readChain self (← readPipeline self) steps
      let sep ← takeToken self false
      if sep.isSign "&" then
        readList self extent (.background line command :: found) fuel
      else if sep.isSign ";" then readList self extent (command :: found) fuel
      else match sep with
        | .newline =>
          pushBack sep
          readList self extent (command :: found) fuel
        | .finish =>
          pushBack sep
          return joined (command :: found)
        | _ =>
          if isLine then unexpected sep none
          else
            pushBack sep
            return joined (command :: found)

/-- Reads a goal. -/
def readGoal : (fuel : Nat) → Reader
  | 0 => fun _ => refuse (.unexpected Token.finish.shown none)
  | fuel + 1 => fun goal =>
    match goal with
    | .list extent => do readList (readGoal fuel) extent [] (← stepsLeft)
    | .command => readCommand (readGoal fuel)

/-- The commands of the next line of a script, or nothing at its end. -/
def readLine (s : Source) : Except SyntaxError (Option Tree × Source) := do
  let (t, s) ← readGoal (2 * s.rest.length + 8) (.list .line) s
  match t, s.ahead with
  | .sequence [], some .finish => return (none, s)
  | t, _ => return (some t, s)

end PxeLaunch.Script

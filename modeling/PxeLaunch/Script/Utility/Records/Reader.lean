import PxeLaunch.Script.Utility.Records.Token

/-!
Reading programs over records. What binds more tightly is read by what binds less tightly, level by
level; the levels are numbered by `Level`.
-/

set_option autoImplicit false

namespace PxeLaunch.Script.Records

/-- A program that is being read: the next token, the text from it on and after it, the line that it
stands in, the parentheses and braces that are open, and the functions that are called. -/
structure Reading where
  token : Token
  start : Chars
  rest : Chars
  line : Nat
  parentheses : Nat
  braces : Nat
  called : List Chars

abbrev Parse (α : Type) := StateT Reading (Except Chars) α

/-- An error in a line. -/
def flawAt (line : Nat) (text : Chars) : Chars :=
  "line ".toList ++ natText line ++ ": ".toList ++ text

def fault {α : Type} (text : Chars) : Parse α := do
  throw (flawAt (← get).line text)

/-- Complains about the next token, or about what has been left open before it. -/
def misplaced {α : Type} : Parse α := do
  let r ← get
  let near : String → Parse α := fun what => fault (what.toList ++ " near ".toList ++ r.token.shown)
  let usual := "syntax error at or"
  match r.token with
  | .flawed remark => fault remark
  | .finish => near (if 0 < r.braces then "missing \x7d" else usual)
  | .newline => near (if 0 < r.parentheses then "missing )" else usual)
  | .mark "\x7d" => near (if 0 < r.parentheses then "missing )" else usual)
  | .mark ")" => if r.parentheses = 0 then fault "extra ')'".toList else near usual
  | _ => near usual

/-- A text of which nothing has been read. -/
def Reading.ofText (cs : Chars) : Reading :=
  let (lines, start) := skipped 0 (cs.length + 1) cs
  let (token, rest) := Token.atFront start
  ⟨token, start, rest, lines + 1, 0, 0, []⟩

/-- Goes on with the text after something. -/
def continueWith (rest : Chars) : Parse PUnit := do
  let r ← get
  let passed : Nat := match r.token with
    | .newline => 1
    | _ => 0
  let (lines, start) := skipped 0 (rest.length + 1) rest
  let (token, rest) := Token.atFront start
  set { r with token := token, start := start, rest := rest, line := r.line + passed + lines }

/-- Goes on after the next token. -/
def advance : Parse PUnit := do
  let r ← get
  match r.token with
  | .mark "(" => set { r with parentheses := r.parentheses + 1 }
  | .mark ")" => set { r with parentheses := r.parentheses - 1 }
  | .mark "\x7b" => set { r with braces := r.braces + 1 }
  | .mark "\x7d" => set { r with braces := r.braces - 1 }
  | _ => pure ()
  continueWith r.rest

/-- Whether the next token is a mark. -/
def isNext (mark : String) : Parse Bool := do
  match (← get).token with
  | .mark m => return m = mark
  | _ => return false

def isWordNext (word : String) : Parse Bool := do
  match (← get).token with
  | .word w => return w = word
  | _ => return false

/-- Goes on after a mark if it is next. -/
def accept (mark : String) : Parse Bool := do
  if ← isNext mark then
    advance
    return true
  else return false

def acceptWord (word : String) : Parse Bool := do
  if ← isWordNext word then
    advance
    return true
  else return false

def expect (mark : String) : Parse PUnit := do
  if !(← accept mark) then misplaced

/-- Goes on after newlines. -/
def skipLines : (fuel : Nat) → Parse PUnit
  | 0 => pure ()
  | fuel + 1 => do
    match (← get).token with
    | .newline =>
      advance
      skipLines fuel
    | _ => pure ()

def skipNewlines : Parse PUnit := do skipLines ((← get).rest.length + 1)

/-- A name that is not called. -/
def readName : Parse Chars := do
  match (← get).token with
  | .name cs =>
    advance
    return cs
  | _ => misplaced

/-- A name that may be called. -/
def readAnyName : Parse Chars := do
  match (← get).token with
  | .name cs =>
    advance
    return cs
  | .function cs =>
    advance
    return cs
  | _ => misplaced

/-! ### Expressions -/

/-- How tightly an expression binds. -/
inductive Level where
  | choice
  | either
  | both
  | isIn
  | fits
  | compare
  | join
  | sum
  | product
  | sign
  | power
  | step
  | operand

/-- What may stand in an expression without parentheses around it. -/
structure Freedom where
  hasIn : Bool
  hasGreater : Bool

def Freedom.all : Freedom := ⟨true, true⟩

/-- Reads an expression of a level. -/
abbrev Inner := Freedom → Level → Parse Expr

def operationOf? (mark : String) : Option Operation :=
  match mark with
  | "+" => some .plus
  | "-" => some .minus
  | "*" => some .times
  | "/" => some .over
  | "%" => some .modulo
  | "^" => some .power
  | _ => none

/-- The operation of a mark that ends in an equals sign. -/
def updateOf? (mark : String) : Option Operation :=
  match mark with
  | "+=" => some .plus
  | "-=" => some .minus
  | "*=" => some .times
  | "/=" => some .over
  | "%=" => some .modulo
  | "^=" => some .power
  | _ => none

def comparisonOf? (c : Freedom) (mark : String) : Option Comparison :=
  match mark with
  | "<" => some .less
  | "<=" => some .atMost
  | "==" => some .equal
  | "!=" => some .unequal
  | ">" => if c.hasGreater then some .greater else none
  | ">=" => some .atLeast
  | _ => none

/-- Operands with operators between them, from the left. -/
def readChain (operand : Parse Expr) (join? : Token → Option (Expr → Expr → Expr))
    (skips : Bool) : (fuel : Nat) → Expr → Parse Expr
  | 0, e => return e
  | fuel + 1, e => do
    match join? (← get).token with
    | some join =>
      advance
      if skips then skipNewlines
      let other ← operand
      readChain operand join? skips fuel (join e other)
    | none => return e

/-- Whether a token can begin an operand that is joined to what stands before it. -/
def Token.beginsOperand : Token → Bool
  | .number _ => true
  | .text _ => true
  | .name _ => true
  | .function _ => true
  | .builtin _ _ => true
  | .mark m => ["$", "!", "(", "++", "--"].contains m
  | _ => false

/-- Operands that stand one after another. -/
def readJoined (operand : Parse Expr) : (fuel : Nat) → Expr → Parse Expr
  | 0, e => return e
  | fuel + 1, e => do
    if (← get).token.beginsOperand then
      let other ← operand
      readJoined operand fuel (.join e other)
    else return e

/-- Names of tables after the word for being in them. -/
def readMembership (c : Freedom) : (fuel : Nat) → Expr → Parse Expr
  | 0, e => return e
  | fuel + 1, e => do
    if c.hasIn then
      if ← acceptWord "in" then
        let table ← readName
        let index := match e with
          | .several es => es
          | e => [e]
        return ← readMembership c fuel (.isIn index table)
    return e

/-- Expressions with commas between them. -/
def readList (inner : Inner) (c : Freedom) : (fuel : Nat) → Parse (List Expr)
  | 0 => misplaced
  | fuel + 1 => do
    let e ← inner c .choice
    if ← accept "," then
      skipNewlines
      return e :: (← readList inner c fuel)
    else return [e]

def readExprs (inner : Inner) (c : Freedom) : Parse (List Expr) := do
  readList inner c ((← get).rest.length + 1)

/-- Arguments after an opening parenthesis, up to the closing one. -/
def readArguments (inner : Inner) : Parse (List Expr) := do
  skipNewlines
  if ← accept ")" then return []
  else
    let es ← readExprs inner .all
    skipNewlines
    expect ")"
    return es

/-- Goes on after the regular expression that begins with the next token. -/
def readSlashed : Parse Expr := do
  let r ← get
  match slashedText false [] r.start.length (r.start.drop 1) with
  | some (cs, rest) =>
    continueWith rest
    return .regex cs
  | none =>
    fault ("runaway regular expression ".toList ++ r.start.take 11 ++ " ...".toList)

/-- A place for a line that is read, if there is one. -/
def readPlace? (inner : Inner) (c : Freedom) : Parse (Option Expr) := do
  match (← get).token with
  | .name cs =>
    advance
    if ← accept "[" then
      let index ← readExprs inner .all
      expect "]"
      return some (.element cs index)
    else return some (.name cs)
  | .mark "$" =>
    advance
    return some (.field (← inner c .operand))
  | _ => return none

/-- A call of a function that every program has. -/
def readBuiltin (inner : Inner) (name : Chars) (b : Builtin) : Parse Expr := do
  advance
  let args ← if ← isNext "(" then
    advance
    readArguments inner
  else if b = .length then pure []
  else misplaced
  if args.length < b.arity.1 || b.arity.2 < args.length then
    fault ("wrong number of arguments in call to ".toList ++ name)
  else return .builtin b args

/-- An expression that no operator takes apart. -/
def readPrimary (inner : Inner) (c : Freedom) : Parse Expr := do
  match (← get).token with
  | .number spelling =>
    advance
    return .number (numberOf spelling)
  | .text cs =>
    advance
    return .text cs
  | .mark "/" => readSlashed
  | .mark "/=" => readSlashed
  | .mark "(" =>
    advance
    match ← readArguments inner with
    | [] => misplaced
    | [e] => return e
    | es => return .several es
  | .mark "$" =>
    advance
    return .field (← inner c .operand)
  | .name cs =>
    advance
    if ← accept "[" then
      let index ← readExprs inner .all
      expect "]"
      return .element cs index
    else return .name cs
  | .function cs =>
    modify fun r => { r with called := r.called ++ [cs] }
    advance
    advance
    return .call cs (← readArguments inner)
  | .builtin name b => readBuiltin inner name b
  | .word "getline" =>
    advance
    let place ← readPlace? inner c
    if ← accept "<" then return .readLine .file (some (← inner c .step)) place
    else return .readLine .input none place
  | _ => misplaced

/-- What may follow an expression that can be given a value. -/
def readAfterPlace (inner : Inner) (c : Freedom) (e : Expr) : Parse Expr := do
  match (← get).token with
  | .mark "++" =>
    advance
    return .step true false e
  | .mark "--" =>
    advance
    return .step false false e
  | .mark "=" =>
    advance
    skipNewlines
    return .assign e (← inner c .choice)
  | .mark m =>
    match updateOf? m with
    | some op =>
      advance
      skipNewlines
      return .update op e (← inner c .choice)
    | none => return e
  | _ => return e

/-- Lines that are read from a command. -/
def readPiped (inner : Inner) (c : Freedom) : (fuel : Nat) → Expr → Parse Expr
  | 0, e => return e
  | fuel + 1, e => do
    let before ← get
    if ← accept "|" then
      if ← acceptWord "getline" then
        let place ← readPlace? inner c
        return ← readPiped inner c fuel (.readLine .command (some e) place)
    set before
    return e

/-- Reads an expression of a level, with a reader for the levels above it. -/
def readLevel (inner : Inner) (c : Freedom) (level : Level) : Parse Expr := do
  let fuel := (← get).rest.length + 1
  let chain (next : Level) (skips : Bool) (join? : Token → Option (Expr → Expr → Expr)) :
      Parse Expr := do
    readChain (inner c next) join? skips fuel (← inner c next)
  match level with
  | .choice =>
    let e ← inner c .either
    if ← accept "?" then
      skipNewlines
      let a ← inner c .choice
      skipNewlines
      expect ":"
      skipNewlines
      return .choice e a (← inner c .choice)
    else return e
  | .either =>
    chain .both true fun
      | .mark "||" => some .either
      | _ => none
  | .both =>
    chain .isIn true fun
      | .mark "&&" => some .both
      | _ => none
  | .isIn => readMembership c fuel (← inner c .fits)
  | .fits =>
    chain .compare false fun
      | .mark "~" => some (.fits true)
      | .mark "!~" => some (.fits false)
      | _ => none
  | .compare =>
    chain .join false fun
      | .mark m => (comparisonOf? c m).map .compare
      | _ => none
  | .join => readJoined (inner c .sum) fuel (← inner c .sum)
  | .sum =>
    chain .product false fun
      | .mark "+" => some (.arithmetic .plus)
      | .mark "-" => some (.arithmetic .minus)
      | _ => none
  | .product =>
    chain .sign false fun
      | .mark m => if ["*", "/", "%"].contains m then (operationOf? m).map .arithmetic else none
      | _ => none
  | .sign =>
    if ← accept "!" then return .not (← inner c .sign)
    else if ← accept "-" then return .negative (← inner c .sign)
    else if ← accept "+" then return .positive (← inner c .sign)
    else readPiped inner c fuel (← inner c .power)
  | .power =>
    let e ← inner c .step
    if ← accept "^" then return .arithmetic .power e (← inner c .sign)
    else return e
  | .step =>
    if ← accept "++" then return .step true true (← inner c .operand)
    else if ← accept "--" then return .step false true (← inner c .operand)
    else
      let e ← readPrimary inner c
      if e.isPlace then readAfterPlace inner c e else return e
  | .operand =>
    if ← accept "++" then return .step true true (← inner c .operand)
    else if ← accept "--" then return .step false true (← inner c .operand)
    else if ← accept "-" then return .negative (← inner c .operand)
    else if ← accept "+" then return .positive (← inner c .operand)
    else if ← accept "!" then return .not (← inner c .operand)
    else readPrimary inner c

def readExpr : (fuel : Nat) → Inner
  | 0, _, _ => misplaced
  | fuel + 1, c, level => readLevel (readExpr fuel) c level

/-- Reads an expression of the level that binds least. -/
def readWhole (c : Freedom) : Parse Expr := do
  readExpr (20 * ((← get).rest.length + 2)) c .choice

/-! ### Statements -/

/-- Goes on after what ends a statement; a closing brace may end it, too. -/
def endStatement : Parse PUnit := do
  match (← get).token with
  | .newline => advance
  | .mark ";" => advance
  | .mark "\x7d" => pure ()
  | _ => misplaced

/-- What a statement prints to. -/
def readTarget? : Parse (Option (Target × Expr)) := do
  let target? : Option Target := match (← get).token with
    | .mark ">" => some .file
    | .mark ">>" => some .fileEnd
    | .mark "|" => some .command
    | _ => none
  match target? with
  | some target =>
    advance
    let e ← readExpr (20 * ((← get).rest.length + 2)) ⟨true, false⟩ .choice
    return some (target, e)
  | none => return none

/-- What is printed, and what to. -/
def readPrinted : Parse (List Expr × Option (Target × Expr)) := do
  let isEmpty : Bool := match (← get).token with
    | .newline => true
    | .finish => true
    | .mark m => [";", "\x7d", ">", ">>", "|"].contains m
    | _ => false
  if isEmpty then return ([], ← readTarget?)
  else
    let es ← readExprs (fun c level => do
      readExpr (20 * ((← get).rest.length + 2)) c level) ⟨true, false⟩
    let target ← readTarget?
    match es with
    | [.several es] => return (es, target)
    | es => return (es, target)

/-- A statement that has no others in it. -/
def readSimple : Parse Statement := do
  let endsHere : Parse Bool := do
    match (← get).token with
    | .newline => return true
    | .mark m => return m = ";" || m = "\x7d"
    | _ => return false
  if ← acceptWord "print" then
    let (es, target) ← readPrinted
    return .print es target
  else if ← acceptWord "printf" then
    let (es, target) ← readPrinted
    if es.isEmpty then misplaced else return .format es target
  else if ← acceptWord "next" then return .next
  else if ← acceptWord "nextfile" then return .nextFile
  else if ← acceptWord "break" then return .break
  else if ← acceptWord "continue" then return .continue
  else if ← acceptWord "exit" then
    if ← endsHere then return .exit none else return .exit (some (← readWhole .all))
  else if ← acceptWord "return" then
    if ← endsHere then return .return none else return .return (some (← readWhole .all))
  else if ← acceptWord "delete" then
    let table ← readName
    if ← accept "[" then
      let index ← readExprs (fun c level => do
        readExpr (20 * ((← get).rest.length + 2)) c level) .all
      expect "]"
      return .delete table index
    else return .delete table []
  else return .expression (← readWhole .all)

/-- A condition in parentheses, and the newlines after it. -/
def readCondition : Parse Expr := do
  expect "("
  let e ← readWhole .all
  expect ")"
  skipNewlines
  return e

/-- Statements up to a closing brace. -/
def readBlock (inner : Parse Statement) : (fuel : Nat) → Parse (List Statement)
  | 0 => misplaced
  | fuel + 1 => do
    match (← get).token with
    | .newline =>
      advance
      readBlock inner fuel
    | .mark ";" =>
      advance
      readBlock inner fuel
    | .mark "\x7d" =>
      advance
      return []
    | _ =>
      let t ← inner
      return t :: (← readBlock inner fuel)

/-- The name and the table of a loop over keys, if what follows the opening parenthesis is that. -/
def readKeys? : Parse (Option (Chars × Chars)) := do
  let before ← get
  match before.token with
  | .name name =>
    advance
    if ← acceptWord "in" then
      match (← get).token with
      | .name table =>
        advance
        if ← accept ")" then return some (name, table)
      | _ => pure ()
  | _ => pure ()
  set before
  return none

/-- The statements after the opening parenthesis of a counting loop. -/
def readCounting (inner : Parse Statement) : Parse Statement := do
  let first? ← if ← isNext ";" then pure none else pure (some (← readSimple))
  expect ";"
  skipNewlines
  let condition? ← if ← isNext ";" then pure none else pure (some (← readWhole .all))
  expect ";"
  skipNewlines
  let step? ← if ← isNext ")" then pure none else pure (some (← readSimple))
  expect ")"
  skipNewlines
  let body ← inner
  let loop := Statement.loop condition? step? body
  match first? with
  | some first => return .block [first, loop]
  | none => return loop

/-- What is done otherwise, if that follows. -/
def readOtherwise? (inner : Parse Statement) : Parse (Option Statement) := do
  let before ← get
  skipNewlines
  let _ ← accept ";"
  skipNewlines
  if ← acceptWord "else" then
    skipNewlines
    return some (← inner)
  else
    set before
    return none

/-- Reads a statement, with a reader for those in it. -/
def readStep (inner : Parse Statement) : Parse Statement := do
  if ← accept "\x7b" then
    return .block (← readBlock inner ((← get).rest.length + 2))
  else if ← accept ";" then return .block []
  else if ← acceptWord "if" then
    let e ← readCondition
    let a ← inner
    return .choice e a (← readOtherwise? inner)
  else if ← acceptWord "while" then
    let e ← readCondition
    return .loop (some e) none (← inner)
  else if ← acceptWord "do" then
    skipNewlines
    let body ← inner
    skipNewlines
    if ← acceptWord "while" then
      expect "("
      let e ← readWhole .all
      expect ")"
      endStatement
      return .loopAfter body e
    else misplaced
  else if ← acceptWord "for" then
    expect "("
    match ← readKeys? with
    | some (name, table) =>
      skipNewlines
      return .each name table (← inner)
    | none => readCounting inner
  else
    let t ← readSimple
    endStatement
    return t

def readStatement : (fuel : Nat) → Parse Statement
  | 0 => misplaced
  | fuel + 1 => readStep (readStatement fuel)

/-- An action in braces. -/
def readAction : Parse Statement := do
  let fuel := (← get).rest.length + 2
  expect "\x7b"
  return .block (← readBlock (readStatement fuel) fuel)

/-! ### Programs -/

/-- The names of parameters, up to the closing parenthesis. -/
def readParameters : (fuel : Nat) → Parse (List Chars)
  | 0 => misplaced
  | fuel + 1 => do
    let name ← readAnyName
    if ← accept "," then
      skipNewlines
      return name :: (← readParameters fuel)
    else
      expect ")"
      return [name]

/-- A rule after its pattern. -/
def readRule (p : Pattern) (needsAction : Bool) : Parse Rule := do
  if ← isNext "\x7b" then return ⟨p, some (← readAction)⟩
  else if needsAction then misplaced
  else return ⟨p, none⟩

/-- Reads the rest of a program. -/
def readItems (p : Program) : (fuel : Nat) → Parse Program
  | 0 => misplaced
  | fuel + 1 => do
    match (← get).token with
    | .finish => return p
    | .newline =>
      advance
      readItems p fuel
    | .mark ";" =>
      advance
      readItems p fuel
    | .word "function" =>
      advance
      let name ← readAnyName
      expect "("
      let parameters ← if ← accept ")" then pure [] else readParameters ((← get).rest.length + 1)
      skipNewlines
      let body ← readAction
      readItems { p with functions := p.functions ++ [(name, ⟨parameters, body⟩)] } fuel
    | .word "BEGIN" =>
      advance
      let rule ← readRule .start true
      readItems { p with rules := p.rules ++ [rule] } fuel
    | .word "END" =>
      advance
      let rule ← readRule .finish true
      readItems { p with rules := p.rules ++ [rule] } fuel
    | .mark "\x7b" =>
      let rule ← readRule .always true
      readItems { p with rules := p.rules ++ [rule] } fuel
    | _ =>
      let e ← readWhole .all
      let pattern ← if ← accept "," then
        skipNewlines
        pure (Pattern.span e (← readWhole .all))
      else pure (Pattern.one e)
      let rule ← readRule pattern false
      match (← get).token with
      | .newline => pure ()
      | .finish => pure ()
      | .mark m => if m != ";" && rule.action.isNone then misplaced
      | _ => if rule.action.isNone then misplaced
      readItems { p with rules := p.rules ++ [rule] } fuel

/-- The program that a text spells. -/
def Program.ofText (cs : Chars) : Except Chars Program := do
  let cs := cs ++ ['\n']
  let (p, r) ← readItems ⟨[], []⟩ (2 * cs.length + 2) (.ofText cs)
  match r.called.find? fun name => (p.functions.lookup name).isNone with
  | some name =>
    throw (flawAt r.line ("function ".toList ++ name ++ " never defined".toList))
  | none => return p

end PxeLaunch.Script.Records

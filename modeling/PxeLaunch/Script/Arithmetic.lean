import PxeLaunch.Script.Number
import PxeLaunch.Script.Source

/-!
Arithmetic in scripts: expressions over words of 64 bits, with names that stand for the numbers
which variables spell and can be given new ones. Values are found while an expression is read, so a
mistake in the text counts only if the values before it can be found.
-/

set_option autoImplicit false

namespace PxeLaunch.Script.Arithmetic

/-- Why an expression has no value. -/
inductive Fault where
  | expected (what : String)
  | divisionByZero
  | illegalNumber (cs : Chars)
  | refused (name : Chars)

/-- Operators of two operands. -/
inductive Operator where
  | bitOr | bitXor | bitAnd
  | equal | unequal
  | less | atMost | greater | atLeast
  | shiftLeft | shiftRight
  | plus | minus
  | times | over | modulo

/-- Operators of one operand. -/
inductive Sign where
  | minus | not | complement

/-- An expression, which may be broken off where something else was expected. -/
inductive Expression where
  | broken (expected : String)
  | unclosed (e : Expression) (expected : String)
  | number (n : Int)
  | name (cs : Chars)
  | signed (sign : Sign) (e : Expression)
  | binary (op : Operator) (a b : Expression)
  | both (a b : Expression)
  | either (a b : Expression)
  | choice (condition yes no : Expression)
  | assignment (name : Chars) (op : Option Operator) (e : Expression)

/-! ### Reading -/

inductive Token where
  | number (n : Int)
  | name (cs : Chars)
  | sign (text : String)
  | unknown

/-- The signs of expressions, the longest first. -/
def signs : List String :=
  ["<<=", ">>=", "<<", ">>", "<=", ">=", "==", "!=", "&&", "||", "+=", "-=", "*=", "/=", "%=",
   "&=", "|=", "^=", "<", ">", "=", "!", "~", "+", "-", "*", "/", "%", "&", "|", "^", "?", ":",
   "(", ")"]

/-- The tokens of an expression. -/
def tokensFrom (found : List Token) : (fuel : Nat) → Chars → List Token
  | 0, _ => found.reverse
  | _, [] => found.reverse
  | fuel + 1, c :: rest =>
    if isSpace c then tokensFrom found fuel rest
    else if isNameStart c then
      let name := (c :: rest).takeWhile isName
      tokensFrom (.name name :: found) fuel ((c :: rest).drop name.length)
    else match prefixedNat? (c :: rest), signs.find? fun s => s.toList.isPrefixOf (c :: rest) with
      | some (n, after), _ => tokensFrom (.number (clamped n) :: found) fuel after
      | none, some sign => tokensFrom (.sign sign :: found) fuel ((c :: rest).drop sign.length)
      | none, none => tokensFrom (.unknown :: found) fuel rest

/-- Reads an expression from tokens. After a mistake, no token is left. -/
abbrev Reader := List Token → Expression × List Token

/-- Operators of two operands, the weakest first. -/
def levels : List (List (String × Operator)) :=
  [[("|", .bitOr)], [("^", .bitXor)], [("&", .bitAnd)],
   [("==", .equal), ("!=", .unequal)],
   [("<", .less), ("<=", .atMost), (">", .greater), (">=", .atLeast)],
   [("<<", .shiftLeft), (">>", .shiftRight)],
   [("+", .plus), ("-", .minus)],
   [("*", .times), ("/", .over), ("%", .modulo)]]

/-- Operators by which the value of a name is changed. -/
def assigning : List (String × Option Operator) :=
  ("=", none) :: (levels.flatten.filter fun (s, _) =>
    ["|", "^", "&", "<<", ">>", "+", "-", "*", "/", "%"].contains s).map fun (s, op) =>
      (s ++ "=", some op)

/-- The token at the front, if it is a sign. -/
def signAt? : List Token → Option String
  | .sign s :: _ => some s
  | _ => none

/-- More operands after a first one. -/
def operandsFrom (operand : Reader) (ops : List (String × Operator)) (a : Expression) :
    (fuel : Nat) → Reader
  | 0, ts => (a, ts)
  | fuel + 1, ts =>
    match (signAt? ts).bind fun s => ops.lookup s with
    | some op =>
      let (b, rest) := operand (ts.drop 1)
      operandsFrom operand ops (.binary op a b) fuel rest
    | none => (a, ts)

/-- Operands with the operators of one level between them, above what binds more strongly. -/
def level (primary : Reader) : List (List (String × Operator)) → Reader
  | [], ts => primary ts
  | ops :: stronger, ts =>
    let (a, rest) := level primary stronger ts
    operandsFrom (level primary stronger) ops a rest.length rest

/-- Operands with one logical operator between them, which bind to the right. -/
def chain (sign : String) (join : Expression → Expression → Expression) (operand : Reader) :
    (fuel : Nat) → Reader
  | 0, ts => operand ts
  | fuel + 1, ts =>
    let (a, rest) := operand ts
    if signAt? rest = some sign then
      let (b, rest) := chain sign join operand fuel (rest.drop 1)
      (join a b, rest)
    else (a, rest)

/-- An expression after which a sign has to come. -/
def closed (sign : String) (e : Expression) (ts : List Token) : Expression × List Token :=
  if signAt? ts = some sign then (e, ts.drop 1) else (.unclosed e ("'" ++ sign ++ "'"), [])

/-- An operand of an operator: a number, a name, or an expression in parentheses, after signs. -/
def readPrimary (whole : Reader) : (fuel : Nat) → Reader
  | 0, _ => (.broken "primary", [])
  | fuel + 1, ts =>
    let under (sign : Sign) (rest : List Token) : Expression × List Token :=
      let (e, rest) := readPrimary whole fuel rest
      (.signed sign e, rest)
    match ts with
    | .number n :: rest => (.number n, rest)
    | .name cs :: rest => (.name cs, rest)
    | .sign "(" :: rest =>
      let (e, rest) := whole rest
      closed ")" e rest
    | .sign "+" :: rest => readPrimary whole fuel rest
    | .sign "-" :: rest => under .minus rest
    | .sign "!" :: rest => under .not rest
    | .sign "~" :: rest => under .complement rest
    | _ => (.broken "primary", [])

/-- An expression in which a question mark may choose between two others. -/
def readConditional (whole : Reader) : (fuel : Nat) → Reader
  | 0, _ => (.broken "primary", [])
  | fuel + 1, ts =>
    let n := ts.length
    let bits := level (readPrimary whole (n + 1)) levels
    let (a, rest) := chain "||" .either (chain "&&" .both bits n) n ts
    if signAt? rest = some "?" then
      let (b, rest) := whole (rest.drop 1)
      if signAt? rest = some ":" then
        let (c, rest) := readConditional whole fuel (rest.drop 1)
        (.choice a b c, rest)
      else (.choice a b (.broken "':'"), [])
    else (a, rest)

/-- An expression that may give a name a new value. -/
def readWhole : (fuel : Nat) → Reader
  | 0, _ => (.broken "primary", [])
  | fuel + 1, ts =>
    match ts with
    | .name cs :: .sign s :: rest =>
      match assigning.lookup s with
      | some op =>
        let (e, rest) := readWhole fuel rest
        (.assignment cs op e, rest)
      | none => readConditional (readWhole fuel) (ts.length + 1) ts
    | _ => readConditional (readWhole fuel) (ts.length + 1) ts

/-- The expression that a text spells. -/
def Expression.ofText (cs : Chars) : Expression :=
  let ts := tokensFrom [] (cs.length + 1) cs
  match readWhole (ts.length + 1) ts with
  | (e, []) => e
  | (e, _ :: _) => .unclosed e "EOF"

/-- What was expected where an expression is broken off. -/
def Expression.flaw? : Expression → Option String
  | .broken expected => some expected
  | .unclosed e expected => e.flaw? <|> some expected
  | .number _ => none
  | .name _ => none
  | .signed _ e => e.flaw?
  | .binary _ a b => a.flaw? <|> b.flaw?
  | .both a b => a.flaw? <|> b.flaw?
  | .either a b => a.flaw? <|> b.flaw?
  | .choice a b c => a.flaw? <|> b.flaw? <|> c.flaw?
  | .assignment _ _ e => e.flaw?

/-! ### Values -/

def truth (b : Bool) : Int := if b then 1 else 0

/-- The bits of a number as a natural number. -/
def bits (n : Int) : Nat := (n % wordRange).toNat

/-- The value of an operator; there is none over zero. -/
def Operator.apply (op : Operator) (a b : Int) : Except Fault Int :=
  match op with
  | .bitOr => .ok (wrapped (bits a ||| bits b : Nat))
  | .bitXor => .ok (wrapped (bits a ^^^ bits b : Nat))
  | .bitAnd => .ok (wrapped (bits a &&& bits b : Nat))
  | .equal => .ok (truth (a = b))
  | .unequal => .ok (truth (a != b))
  | .less => .ok (truth (a < b))
  | .atMost => .ok (truth (a ≤ b))
  | .greater => .ok (truth (b < a))
  | .atLeast => .ok (truth (b ≤ a))
  | .shiftLeft => .ok (wrapped (a * Nat.pow 2 (b % 64).toNat))
  | .shiftRight => .ok (a / Nat.pow 2 (b % 64).toNat)
  | .plus => .ok (wrapped (a + b))
  | .minus => .ok (wrapped (a - b))
  | .times => .ok (wrapped (a * b))
  | .over => if b = 0 then .error .divisionByZero else .ok (wrapped (a.tdiv b))
  | .modulo => if b = 0 then .error .divisionByZero else .ok (wrapped (a.tmod b))

def Sign.apply : Sign → Int → Int
  | .minus, n => wrapped (-n)
  | .not, n => truth (n = 0)
  | .complement, n => -n - 1

/-- Where names have their values: how one is looked up, and how it is changed. -/
structure Names (σ : Type) where
  value? : Chars → σ → Option Chars
  assign? : Chars → Chars → σ → Option σ

/-- The number that the value of a name spells. -/
def Names.number {σ : Type} (names : Names σ) (name : Chars) (s : σ) : Except Fault Int :=
  let text := (names.value? name s).getD []
  match prefixedInt? text with
  | some n => .ok n
  | none => .error (.illegalNumber text)

/-- Passes over an expression whose value does not count. -/
def Expression.pass (e : Expression) : Except Fault Unit :=
  match e.flaw? with
  | some expected => .error (.expected expected)
  | none => .ok ()

/-- The value of an expression, and the names after it. -/
def Expression.value {σ : Type} (names : Names σ) : Expression → σ → Except Fault (Int × σ)
  | .broken expected, _ => .error (.expected expected)
  | .unclosed e expected, s => do
    let _ ← e.value names s
    throw (.expected expected)
  | .number n, s => .ok (n, s)
  | .name cs, s => do return (← names.number cs s, s)
  | .signed sign e, s => do
    let (n, s) ← e.value names s
    return (sign.apply n, s)
  | .binary op a b, s => do
    let (m, s) ← a.value names s
    let (n, s) ← b.value names s
    return (← op.apply m n, s)
  | .both a b, s => do
    let (m, s) ← a.value names s
    if m = 0 then
      b.pass
      return (0, s)
    let (n, s) ← b.value names s
    return (truth (n != 0), s)
  | .either a b, s => do
    let (m, s) ← a.value names s
    if m != 0 then
      b.pass
      return (1, s)
    let (n, s) ← b.value names s
    return (truth (n != 0), s)
  | .choice condition yes no, s => do
    let (n, s) ← condition.value names s
    if n != 0 then
      let (m, s) ← yes.value names s
      no.pass
      return (m, s)
    else
      yes.pass
      no.value names s
  | .assignment cs op e, s => do
    let (n, s) ← e.value names s
    let n ← match op with
      | some op => do op.apply (← names.number cs s) n
      | none => pure n
    match names.assign? cs (intText n) s with
    | some s => return (n, s)
    | none => .error (.refused cs)

/-- What is said of an expression without a value. -/
def Fault.message (text : Chars) : Fault → Chars
  | .expected what => about ("expecting " ++ what)
  | .divisionByZero => about "division by zero"
  | .illegalNumber cs => "Illegal number: ".toList ++ cs
  | .refused name => name ++ ": is read only".toList
where
  about (cause : String) : Chars :=
    "arithmetic expression: ".toList ++ cause.toList ++ ": \"".toList ++ text ++ ['"']

/-- The value of an expression that is a text. -/
def evaluate {σ : Type} (names : Names σ) (text : Chars) (s : σ) : Except Fault (Int × σ) :=
  (Expression.ofText text).value names s

end PxeLaunch.Script.Arithmetic

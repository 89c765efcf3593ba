import PxeLaunch.Script.Utility.Input

/-!
Conditions on texts, numbers and files, joined by signs that stand between them.
-/

set_option autoImplicit false

namespace PxeLaunch.Script

/-! ### What there is -/

/-- What a path leads to. -/
inductive Found where
  | folder
  | file (size : Nat) (executable : Bool)
  | device
  deriving DecidableEq

/-- The folders that programs of the system stand in. -/
def systemFolders : List String := ["/bin/", "/usr/bin/"]

/-- The name of a program of the system that a path leads to. -/
def systemName? (programs : List String) (path : Chars) : Option Chars :=
  (systemFolders.findSome? fun lead =>
    if lead.toList.isPrefixOf path then some (path.drop lead.length) else none).filter fun name =>
      programs.contains (String.ofList name)

/-- The programs that there are. -/
def programNames : List String :=
  ["[", "arch", "awk", "base64", "basename", "bash", "cat", "chmod", "cmp", "comm", "cp", "cut",
   "dash", "date", "diff", "dirname", "echo", "egrep", "env", "expr", "false", "fgrep",
   "find", "fold", "grep", "groups", "head", "hostname", "id", "install", "ln", "ls", "mawk",
   "mkdir", "mktemp", "mv", "nice", "nl", "nohup", "nproc", "od", "paste", "printenv", "printf", "pwd",
   "readlink", "realpath", "rev", "rm", "rmdir", "sed", "seq", "setsid", "sh", "sleep", "sort",
   "stat", "stdbuf", "sync", "tac", "tail", "tee", "test", "timeout", "touch", "tr", "true",
   "truncate", "tty", "uname", "uniq", "wc", "which", "whoami", "xargs", "yes"]

namespace Shell

/-- What a path leads to, devices and programs of the system among it. -/
def find? (s : Shell) (path : Chars) : Option Found :=
  if (device? path).isSome then some .device
  else match s.files.get (pathOf path) with
    | .ok .folder => some .folder
    | .ok (.file content access) => some (.file content.length access.executable)
    | .error _ => if (systemName? programNames path).isSome then some (.file 1 true) else none

end Shell

/-! ### Operators -/

def unaryOperators : List String :=
  ["-r", "-w", "-x", "-e", "-f", "-d", "-c", "-b", "-p", "-u", "-g", "-k", "-s", "-t", "-z", "-n",
   "-h", "-L", "-O", "-G", "-S"]

def binaryOperators : List String :=
  ["=", "!=", "<", ">", "-eq", "-ne", "-lt", "-le", "-gt", "-ge", "-nt", "-ot", "-ef"]

/-- Why a condition is none. -/
inductive ConditionFault where
  | unexpectedOperator (word : Chars)
  | argumentExpected (operator : Chars)
  | closingExpected
  | illegalNumber (word : Chars)
  | missingBracket

def ConditionFault.message : ConditionFault → Chars
  | .unexpectedOperator [] => "unexpected operator".toList
  | .unexpectedOperator word => word ++ ": unexpected operator".toList
  | .argumentExpected operator => operator ++ ": argument expected".toList
  | .closingExpected => "closing paren expected".toList
  | .illegalNumber word => "Illegal number: ".toList ++ word
  | .missingBracket => "missing ]".toList

/-- A word of a condition. -/
inductive TestToken where
  | finish
  | operand
  | unary (operator : String)
  | binary (operator : String)
  | not
  | both
  | either
  | opening
  | closing
  deriving DecidableEq

/-- A word by itself. -/
def TestToken.plain (word : Chars) : TestToken :=
  let name := String.ofList word
  if unaryOperators.contains name then .unary name
  else if binaryOperators.contains name then .binary name
  else if name = "!" then .not
  else if name = "-a" then .both
  else if name = "-o" then .either
  else if name = "(" then .opening
  else if name = ")" then .closing
  else .operand

def TestToken.isBinary : TestToken → Bool
  | .binary _ => true
  | _ => false

/-- The first of some words. An operator with nothing to stand before is an operand, and so is one
that stands before an operator of two operands. -/
def TestToken.first (words : List Chars) : TestToken :=
  match words with
  | [] => .finish
  | word :: rest =>
    match TestToken.plain word, rest with
    | .unary op, next =>
      match next with
      | [] => .operand
      | [_] => .unary op
      | b :: _ :: _ =>
        match TestToken.plain b with
        | .binary _ => .operand
        | _ => .unary op
    | .opening, [] => .operand
    | t, _ => t

/-- The truth of an operator with one operand. -/
def unaryTest (s : Shell) (operator : String) (word : Chars) : Except ConditionFault Bool :=
  let found := s.find? word
  match operator with
  | "-r" => .ok (match s.files.get (Shell.pathOf word) with
    | .ok (.file _ ⟨_, some _⟩) => false
    | _ => found.isSome)
  | "-n" => .ok !word.isEmpty
  | "-z" => .ok word.isEmpty
  | "-f" => .ok (match found with
    | some (.file _ _) => true
    | _ => false)
  | "-d" => .ok (found = some .folder)
  | "-c" => .ok (found = some .device)
  | "-s" => .ok (match found with
    | some (.file size _) => 0 < size
    | some .folder => true
    | _ => false)
  | "-x" => .ok (match found with
    | some (.file _ executable) => executable
    | some .folder => true
    | _ => false)
  | "-t" => if (intOf? word).isSome then .ok false else .error (.illegalNumber word)
  | _ =>
    if ["-b", "-p", "-u", "-g", "-k", "-h", "-L", "-S"].contains operator then .ok false
    else .ok found.isSome

/-- The truth of an operator with two operands. -/
def binaryTest (s : Shell) (a : Chars) (operator : String) (b : Chars) :
    Except ConditionFault Bool :=
  let number (word : Chars) : Except ConditionFault Int :=
    match intOf? word with
    | some n => .ok n
    | none => .error (.illegalNumber word)
  let numbers (p : Int → Int → Bool) : Except ConditionFault Bool := do
    return p (← number a) (← number b)
  match operator with
  | "=" => .ok (a == b)
  | "!=" => .ok (a != b)
  | "<" => .ok (Bytes.before a.toBytes b.toBytes)
  | ">" => .ok (Bytes.before b.toBytes a.toBytes)
  | "-eq" => numbers fun m n => m = n
  | "-ne" => numbers fun m n => m != n
  | "-lt" => numbers fun m n => m < n
  | "-le" => numbers fun m n => m ≤ n
  | "-gt" => numbers fun m n => n < m
  | "-ge" => numbers fun m n => n ≤ m
  | "-ef" =>
    match s.files.locate (Shell.pathOf a), s.files.locate (Shell.pathOf b) with
    | .ok x, .ok y => .ok (x = y && (s.find? a).isSome)
    | _, _ => .ok false
  | _ => .ok false

/-! ### Conditions -/

/-- The truth of a condition, and the words from the last one on that belongs to it. -/
abbrev Truth := Except ConditionFault (Bool × List Chars)

/-- The truth of what stands between signs, whose first word has been looked at. -/
def primaryTest (s : Shell) (alternatives : TestToken → List Chars → Truth) (t : TestToken)
    (words : List Chars) : Truth :=
  match t with
  | .finish => .ok (false, words)
  | .opening => do
    let inner := words.drop 1
    let t := TestToken.first inner
    if t = .closing then return (false, inner)
    let (truth, words) ← alternatives t inner
    let rest := words.drop 1
    if TestToken.first rest = .closing then return (truth, rest) else .error .closingExpected
  | .unary op =>
    match words.drop 1 with
    | [] => .error (.argumentExpected op.toList)
    | word :: rest => do return (← unaryTest s op word, word :: rest)
  | _ =>
    let word := words.headD []
    match TestToken.first (words.drop 1) with
    | .binary op =>
      match words.drop 2 with
      | [] => .error (.argumentExpected op.toList)
      | b :: rest => do return (← binaryTest s word op b, b :: rest)
    | _ => .ok (!word.isEmpty, words)

/-- The truth of something that signs may negate. -/
def negatedTest (s : Shell) (alternatives : TestToken → List Chars → Truth) :
    (fuel : Nat) → TestToken → List Chars → Truth
  | 0, _, words => .ok (false, words)
  | fuel + 1, t, words =>
    if t = .not then do
      let rest := words.drop 1
      let words := if rest.isEmpty then words else rest
      let (truth, left) ← negatedTest s alternatives fuel (TestToken.first rest) words
      return (!truth, left)
    else primaryTest s alternatives t words

/-- The truth of several conditions that all have to hold. -/
def allTests (s : Shell) (alternatives : TestToken → List Chars → Truth) (so : Bool) :
    (fuel : Nat) → TestToken → List Chars → Truth
  | 0, _, words => .ok (so, words)
  | fuel + 1, t, words => do
    let (truth, words) ← negatedTest s alternatives (words.length + 2) t words
    let so := so && truth
    if TestToken.first (words.drop 1) = .both then
      let rest := words.drop 2
      allTests s alternatives so fuel (TestToken.first rest) rest
    else return (so, words)

/-- The truth of several conditions of which one has to hold. -/
def anyTest (s : Shell) (so : Bool) : (fuel : Nat) → TestToken → List Chars → Truth
  | 0, _, words => .ok (so, words)
  | fuel + 1, t, words => do
    let (truth, words) ← allTests s (anyTest s false fuel) true (words.length + 2) t words
    let so := so || truth
    if TestToken.first (words.drop 1) = .either then
      let rest := words.drop 2
      anyTest s so fuel (TestToken.first rest) rest
    else return (so, words)

/-- The truth of a condition. How few words are understood depends on their number. -/
def truthOf (s : Shell) : (fuel : Nat) → List Chars → Except ConditionFault Bool
  | 0, _ => .ok false
  | _, [] => .ok false
  | fuel + 1, words => do
    let isComparison : Bool := match words with
      | [_, op, _] => (TestToken.plain op).isBinary
      | _ => false
    let few := words.length = 3 || words.length = 4
    let evaluated (t : TestToken) (words : List Chars) : Except ConditionFault Bool := do
      let (truth, left) ← anyTest s false (2 * words.length + 4) t words
      match left with
      | word :: _ :: _ => .error (.unexpectedOperator word)
      | _ => return truth
    if isComparison then
      match words with
      | [a, op, b] =>
        match TestToken.plain op with
        | .binary op => binaryTest s a op b
        | _ => evaluated .operand words
      | _ => return false
    else if few && words.head? = some ['('] && words.getLast? = some [')'] then
      evaluated (TestToken.first words.dropLast.tail) words.dropLast.tail
    else if few && words.head? = some ['!'] then
      return !(← truthOf s fuel words.tail)
    else evaluated (TestToken.first words) words

/-- Answers whether a condition holds. In brackets it has to end with the closing one. -/
def testCondition (bracketed : Bool) : Utility := fun args s =>
  let result :=
    if bracketed then
      if args.getLast? = some [']'] then truthOf s (args.length + 1) args.dropLast
      else .error .missingBracket
    else truthOf s (args.length + 1) args
  match result with
  | .ok truth => s.answer (if truth then 0 else 1)
  | .error fault => s.complainHere fault.message 2

end PxeLaunch.Script

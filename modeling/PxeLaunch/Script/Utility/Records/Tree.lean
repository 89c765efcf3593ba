import PxeLaunch.Script.Tree

/-!
Programs over the records of a text. A program has rules, each of which says for which records
something is done, and functions that are called on the way.
-/

set_option autoImplicit false

namespace PxeLaunch.Script.Records

inductive Operation where
  | plus
  | minus
  | times
  | over
  | modulo
  | power
  deriving DecidableEq

inductive Comparison where
  | less
  | atMost
  | equal
  | unequal
  | greater
  | atLeast
  deriving DecidableEq

/-- Functions that every program has. -/
inductive Builtin where
  | length
  | part
  | index
  | split
  | replaceOne
  | replaceAll
  | find
  | format
  | lower
  | upper
  | integer
  | root
  | exponential
  | logarithm
  | sine
  | cosine
  | angle
  | random
  | seed
  | system
  | close
  | flush
  deriving DecidableEq

def Builtin.ofName? (name : String) : Option Builtin :=
  match name with
  | "length" => some .length
  | "substr" => some .part
  | "index" => some .index
  | "split" => some .split
  | "sub" => some .replaceOne
  | "gsub" => some .replaceAll
  | "match" => some .find
  | "sprintf" => some .format
  | "tolower" => some .lower
  | "toupper" => some .upper
  | "int" => some .integer
  | "sqrt" => some .root
  | "exp" => some .exponential
  | "log" => some .logarithm
  | "sin" => some .sine
  | "cos" => some .cosine
  | "atan2" => some .angle
  | "rand" => some .random
  | "srand" => some .seed
  | "system" => some .system
  | "close" => some .close
  | "fflush" => some .flush
  | _ => none

/-- The least and the greatest number of arguments. -/
def Builtin.arity : Builtin → Nat × Nat
  | .length => (0, 1)
  | .part => (2, 3)
  | .index => (2, 2)
  | .split => (2, 3)
  | .replaceOne => (2, 3)
  | .replaceAll => (2, 3)
  | .find => (2, 2)
  | .format => (1, 1000)
  | .angle => (2, 2)
  | .random => (0, 0)
  | .seed => (0, 1)
  | .flush => (0, 1)
  | _ => (1, 1)

/-- Where a line is read from. -/
inductive Source where
  | input
  | file
  | command
  deriving DecidableEq

/-- What something is printed to. -/
inductive Target where
  | file
  | fileEnd
  | command
  deriving DecidableEq

inductive Expr where
  | number (x : Float)
  | text (cs : Chars)
  | regex (cs : Chars)
  | name (name : Chars)
  | field (index : Expr)
  | element (table : Chars) (index : List Expr)
  | assign (place value : Expr)
  | update (op : Operation) (place value : Expr)
  | step (up before : Bool) (place : Expr)
  | arithmetic (op : Operation) (a b : Expr)
  | positive (a : Expr)
  | negative (a : Expr)
  | not (a : Expr)
  | compare (c : Comparison) (a b : Expr)
  | join (a b : Expr)
  | fits (wanted : Bool) (a pattern : Expr)
  | both (a b : Expr)
  | either (a b : Expr)
  | choice (condition a b : Expr)
  | isIn (index : List Expr) (table : Chars)
  | call (function : Chars) (args : List Expr)
  | builtin (b : Builtin) (args : List Expr)
  | readLine (source : Source) (origin place : Option Expr)
  | several (es : List Expr)

/-- Whether something can be given a value. -/
def Expr.isPlace : Expr → Bool
  | .name _ => true
  | .field _ => true
  | .element _ _ => true
  | _ => false

inductive Statement where
  | expression (e : Expr)
  | print (args : List Expr) (target : Option (Target × Expr))
  | format (args : List Expr) (target : Option (Target × Expr))
  | choice (condition : Expr) (a : Statement) (b : Option Statement)
  | loop (condition : Option Expr) (step : Option Statement) (body : Statement)
  | loopAfter (body : Statement) (condition : Expr)
  | each (name table : Chars) (body : Statement)
  | block (body : List Statement)
  | delete (table : Chars) (index : List Expr)
  | next
  | nextFile
  | exit (status : Option Expr)
  | return (value : Option Expr)
  | break
  | continue

/-- When a rule applies. -/
inductive Pattern where
  | start
  | finish
  | always
  | one (condition : Expr)
  | span (first last : Expr)

/-- A pattern with what is done; the record is shown if nothing is said. -/
structure Rule where
  pattern : Pattern
  action : Option Statement

structure Function where
  parameters : List Chars
  body : Statement

structure Program where
  rules : List Rule
  functions : List (Chars × Function)

end PxeLaunch.Script.Records

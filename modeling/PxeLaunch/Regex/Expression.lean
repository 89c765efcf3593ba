/-!
Regular expressions as they are written: the forms that the notation has, before flags are applied
and before class names are looked up.
-/

set_option autoImplicit false

namespace PxeLaunch.Regex

/-- The switches that an expression may set for the rest of a group. -/
inductive Flag where
  | caseInsensitive
  | multiLine
  | dotMatchesNewline
  | swapGreed
  | unicode
  | crlf
  | ignoreWhitespace
  deriving Repr, DecidableEq

/-- The switches that a directive names, each with its new position. -/
abbrev FlagChange := List (Flag × Bool)

/-- The new position of a switch, if the directive names it. -/
def FlagChange.position (change : FlagChange) (f : Flag) : Option Bool := change.lookup f

/-- A single character. With Unicode off, one that was written as `\xNN` stands for an octet. -/
structure Literal where
  char : Char
  isByteEscape : Bool
  deriving Repr, DecidableEq

/-- Conditions on a position. -/
inductive Assertion where
  | lineStart
  | lineEnd
  | textStart
  | textEnd
  | wordBoundary
  | notWordBoundary
  | wordStart
  | wordEnd
  | wordStartHalf
  | wordEndHalf
  deriving Repr, DecidableEq

/-- The classes with a one-letter name. -/
inductive ShortClass where
  | digit
  | space
  | word
  deriving Repr, DecidableEq

/-- The named ASCII classes, which may stand inside brackets. -/
inductive AsciiClass where
  | alnum | alpha | ascii | blank | cntrl | digit | graph | lower | print | punct | space | upper
  | word | xdigit
  deriving Repr, DecidableEq

/-- A class that is chosen by a Unicode property. -/
inductive PropertyQuery where
  | named (name : String)
  | valued (property value : String)
  deriving Repr, DecidableEq

/-- The operations between the parts of a bracketed class. -/
inductive SetOperation where
  | inter
  | difference
  | symmetricDifference
  deriving Repr, DecidableEq

mutual

/-- A member of a bracketed class. -/
inductive ClassItem where
  | literal (l : Literal)
  | range (first last : Literal)
  | ascii (kind : AsciiClass) (negated : Bool)
  | short (kind : ShortClass) (negated : Bool)
  | property (query : PropertyQuery) (negated : Bool)
  | nested (negated : Bool) (body : ClassBody)

/-- What stands between the brackets of a class. Operations group to the left. -/
inductive ClassBody where
  | items (members : List ClassItem)
  | operation (op : SetOperation) (left : ClassBody) (right : List ClassItem)

end

/-- A regular expression as written. -/
inductive Expression where
  | empty
  | flags (change : FlagChange)
  | literal (l : Literal)
  | dot
  | assertion (a : Assertion)
  | short (kind : ShortClass) (negated : Bool)
  | property (query : PropertyQuery) (negated : Bool)
  | bracketed (negated : Bool) (body : ClassBody)
  | repetition (body : Expression) (least : Nat) (most : Option Nat) (greedy : Bool)
  | capture (index : Nat) (body : Expression)
  | group (change : FlagChange) (body : Expression)
  | alternation (branches : List Expression)
  | concatenation (parts : List Expression)

/-- The forms side by side; one form stands for itself. -/
def Expression.ofParts : List Expression → Expression
  | [] => .empty
  | [e] => e
  | es => .concatenation es

/-- The depth of several members of a class together. -/
def unionDepth : List Nat → Nat
  | [] => 0
  | [d] => d
  | ds => ds.foldl max 0 + 1

mutual

/-- How deeply brackets nest inside a member of a class. -/
def ClassItem.depth : ClassItem → Nat
  | .nested _ body => body.depth + 1
  | _ => 0

/-- The depths of the members of a class. -/
def ClassItem.depths : List ClassItem → List Nat
  | [] => []
  | i :: rest => i.depth :: ClassItem.depths rest

/-- How deeply brackets, unions and operations nest inside a class. -/
def ClassBody.depth : ClassBody → Nat
  | .items members => unionDepth (ClassItem.depths members)
  | .operation _ left right => max left.depth (unionDepth (ClassItem.depths right)) + 1

end

mutual

/-- How deeply the forms of an expression nest. -/
def Expression.depth : Expression → Nat
  | .bracketed _ body => body.depth + 1
  | .repetition body _ _ _ => body.depth + 1
  | .capture _ body => body.depth + 1
  | .group _ body => body.depth + 1
  | .alternation branches => Expression.deepest branches + 1
  | .concatenation parts => Expression.deepest parts + 1
  | _ => 0

/-- The greatest depth among several expressions. -/
def Expression.deepest : List Expression → Nat
  | [] => 0
  | e :: rest => max e.depth (Expression.deepest rest)

end

end PxeLaunch.Regex

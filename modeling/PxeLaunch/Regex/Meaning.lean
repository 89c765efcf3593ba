import PxeLaunch.Regex.Expression
import PxeLaunch.Regex.Node
import PxeLaunch.Unicode.Folding
import PxeLaunch.Unicode.Property
import PxeLaunch.Unicode.Category
import PxeLaunch.Unicode.Script
import PxeLaunch.Unicode.ScriptExtensions
import PxeLaunch.Unicode.Age
import PxeLaunch.Unicode.ClusterBreak
import PxeLaunch.Unicode.WordBreak
import PxeLaunch.Unicode.SentenceBreak

/-!
The meaning of expressions: switches are applied, class names are looked up, and every class becomes
a set of code points or of octets.
-/

set_option autoImplicit false

namespace PxeLaunch.Regex

open PxeLaunch.Unicode (RangeSet)

/-- The switches in force. -/
structure Switches where
  caseInsensitive : Bool := false
  multiLine : Bool := false
  dotMatchesNewline : Bool := false
  swapGreed : Bool := false
  unicode : Bool := true
  crlf : Bool := false

/-- The switches after a directive. -/
def Switches.apply (s : Switches) (change : FlagChange) : Switches where
  caseInsensitive := (change.position .caseInsensitive).getD s.caseInsensitive
  multiLine := (change.position .multiLine).getD s.multiLine
  dotMatchesNewline := (change.position .dotMatchesNewline).getD s.dotMatchesNewline
  swapGreed := (change.position .swapGreed).getD s.swapGreed
  unicode := (change.position .unicode).getD s.unicode
  crlf := (change.position .crlf).getD s.crlf

/-- What the meaning of an expression depends on, and what has been found out about it. -/
structure Scope where
  switches : Switches
  /-- Some part may match bytes that are not UTF-8. -/
  matchesInvalid : Bool

/-- Finding the meaning fails on names that do not exist and on classes that Unicode is off for. -/
abbrev Meaning := StateT Scope Option

namespace Meaning

def switches : Meaning Switches := do return (← get).switches

/-- Notes that what was just read can match bytes that are not UTF-8. -/
def noteInvalid (condition : Bool) : Meaning PUnit :=
  if condition then modify fun s => { s with matchesInvalid := true } else pure ()

/-- The characters of a property's name without case, blanks, hyphens and underscores, and without
a leading `is`. -/
def looseName (name : String) : String :=
  let cs := name.toList
  let hasIs := match cs with
    | i :: s :: _ => i.toLower == 'i' && s.toLower == 's'
    | _ => false
  let kept := (if hasIs then cs.drop 2 else cs).filter fun c =>
    c.toNat < 0x80 && c != ' ' && c != '_' && c != '-'
  let loose := String.ofList (kept.map Char.toLower)
  if hasIs && loose == "c" then "isc" else loose

/-- The set of code points that a property chooses. Properties go before categories and those before
scripts, except that three short names are kept for categories. -/
def querySet? : PropertyQuery → Option RangeSet
  | .named name =>
    let loose := looseName name
    let property :=
      if loose == "cf" || loose == "sc" || loose == "lc" then none
      else Unicode.Property.named? loose
    property <|> Unicode.Category.named? loose <|> Unicode.Script.named? loose
  | .valued property value =>
    match looseName property with
    | "gc" | "generalcategory" => Unicode.Category.named? (looseName value)
    | "sc" | "script" => Unicode.Script.named? (looseName value)
    | "scx" | "scriptextensions" => Unicode.ScriptExtensions.named? (looseName value)
    | "age" => Unicode.Age.named? (looseName value)
    | "gcb" | "graphemeclusterbreak" => Unicode.ClusterBreak.named? (looseName value)
    | "wb" | "wordbreak" => Unicode.WordBreak.named? (looseName value)
    | "sb" | "sentencebreak" => Unicode.SentenceBreak.named? (looseName value)
    | _ => none

def asciiRanges : AsciiClass → RangeSet
  | .alnum => [⟨48, 57⟩, ⟨65, 90⟩, ⟨97, 122⟩]
  | .alpha => [⟨65, 90⟩, ⟨97, 122⟩]
  | .ascii => [⟨0, 127⟩]
  | .blank => [⟨9, 9⟩, ⟨32, 32⟩]
  | .cntrl => [⟨0, 31⟩, ⟨127, 127⟩]
  | .digit => [⟨48, 57⟩]
  | .graph => [⟨33, 126⟩]
  | .lower => [⟨97, 122⟩]
  | .print => [⟨32, 126⟩]
  | .punct => [⟨33, 47⟩, ⟨58, 64⟩, ⟨91, 96⟩, ⟨123, 126⟩]
  | .space => [⟨9, 13⟩, ⟨32, 32⟩]
  | .upper => [⟨65, 90⟩]
  | .word => [⟨48, 57⟩, ⟨65, 90⟩, ⟨95, 95⟩, ⟨97, 122⟩]
  | .xdigit => [⟨48, 57⟩, ⟨65, 70⟩, ⟨97, 102⟩]

/-- The code points of a class with a one-letter name. -/
def shortRanges (unicode : Bool) : ShortClass → RangeSet
  | .digit => if unicode then Unicode.Category.Leaf.ranges .decimalNumber else asciiRanges .digit
  | .space => if unicode then Unicode.Property.whiteSpace else asciiRanges .space
  | .word => if unicode then Unicode.Property.word else asciiRanges .word

/-- Adds the other case of every ASCII letter. -/
def foldAscii (s : RangeSet) : RangeSet :=
  let upper := RangeSet.inter s [⟨65, 90⟩]
  let lower := RangeSet.inter s [⟨97, 122⟩]
  let withLower := RangeSet.union s (upper.map fun r => ⟨r.lo + 32, r.hi + 32⟩)
  RangeSet.union withLower (lower.map fun r => ⟨r.lo - 32, r.hi - 32⟩)

/-- Adds what differs from a member in case alone, if case is to be ignored. -/
def fold (s : Switches) (set : RangeSet) : RangeSet :=
  if s.caseInsensitive then
    if s.unicode then Unicode.Folding.close set else foldAscii set
  else set

def whole (s : Switches) : RangeSet := if s.unicode then RangeSet.scalars else RangeSet.octets

def negate (s : Switches) (negated : Bool) (set : RangeSet) : RangeSet :=
  if negated then RangeSet.complement (whole s) set else set

/-- Folds case, then negates. Octets past ASCII are not UTF-8 by themselves. -/
def foldAndNegate (negated : Bool) (set : RangeSet) : Meaning RangeSet := do
  let s ← switches
  let result := negate s negated (fold s set)
  noteInvalid (!s.unicode && !result.isAscii)
  return result

/-- The number that a literal stands for inside a class. -/
def classMember (l : Literal) : Meaning Nat := do
  let s ← switches
  if s.unicode then return l.char.toNat
  let isOctet := l.isByteEscape && l.char.toNat < 256
  noteInvalid (isOctet && 0x80 ≤ l.char.toNat)
  if isOctet || l.char.toNat < 0x80 then return l.char.toNat else failure

/-- The set of a class with a one-letter name. -/
def shortSet (kind : ShortClass) (negated : Bool) : Meaning RangeSet := do
  let s ← switches
  let result := negate s negated (shortRanges s.unicode kind)
  noteInvalid (!s.unicode && !result.isAscii)
  return result

/-- The set of a class that is chosen by a property. -/
def propertySet (query : PropertyQuery) (negated : Bool) : Meaning RangeSet := do
  let s ← switches
  if !s.unicode then failure
  match querySet? query with
  | some set => foldAndNegate negated set
  | none => failure

def combine : SetOperation → RangeSet → RangeSet → RangeSet
  | .inter => RangeSet.inter
  | .difference => RangeSet.difference
  | .symmetricDifference => RangeSet.symmetricDifference

mutual

/-- The set of a member of a class. -/
def itemSet : ClassItem → Meaning RangeSet
  | .literal l => do return RangeSet.single (← classMember l)
  | .range first last => do
    let lo ← classMember first
    let hi ← classMember last
    return [⟨lo, hi⟩]
  | .ascii kind negated => foldAndNegate negated (asciiRanges kind)
  | .short kind negated => shortSet kind negated
  | .property query negated => propertySet query negated
  | .nested negated body => do foldAndNegate negated (← bodySet body)

/-- The set of several members together. -/
def itemsSet : List ClassItem → Meaning RangeSet
  | [] => return []
  | i :: rest => do
    let s ← itemSet i
    let t ← itemsSet rest
    return RangeSet.union s t

/-- The set of what stands between brackets. The sides of an operation are folded before it. -/
def bodySet : ClassBody → Meaning RangeSet
  | .items members => itemsSet members
  | .operation op left right => do
    let l ← bodySet left
    let r ← itemsSet right
    let s ← switches
    return combine op (fold s l) (fold s r)

end

/-- The node of a class under the switches in force. -/
def classNode (set : RangeSet) : Meaning Node := do
  return if (← switches).unicode then .ofCharClass set else .ofByteClass set

/-- The meaning of a single character. -/
def literalNode (l : Literal) : Meaning Node := do
  let s ← switches
  let n := l.char.toNat
  if !s.unicode && l.isByteEscape && 0x80 ≤ n && n < 256 then
    noteInvalid true
    return .bytes [l.char.toNat.toUInt8]
  else if s.caseInsensitive then
    if s.unicode then
      let set := Unicode.Folding.close (RangeSet.single n)
      return .ofCharClass set
    else if l.char.isAlpha then return .ofByteClass (foldAscii (RangeSet.single n))
    else return .bytes (Bytes.ofChars [l.char])
  else return .bytes (Bytes.ofChars [l.char])

/-- The meaning of the dot. -/
def dotNode : Meaning Node := do
  let s ← switches
  noteInvalid (!s.unicode)
  let excluded : RangeSet :=
    if s.dotMatchesNewline then [] else if s.crlf then [⟨10, 10⟩, ⟨13, 13⟩] else [⟨10, 10⟩]
  classNode (RangeSet.complement (whole s) excluded)

/-- The meaning of an assertion. -/
def assertionNode (a : Assertion) : Meaning Node := do
  let s ← switches
  return .look <| match a with
    | .lineStart =>
      if s.multiLine then (if s.crlf then .crlfLineStart else .lineStart) else .textStart
    | .lineEnd => if s.multiLine then (if s.crlf then .crlfLineEnd else .lineEnd) else .textEnd
    | .textStart => .textStart
    | .textEnd => .textEnd
    | .wordBoundary => .wordBoundary s.unicode
    | .notWordBoundary => .notWordBoundary s.unicode
    | .wordStart => .wordStart s.unicode
    | .wordEnd => .wordEnd s.unicode
    | .wordStartHalf => .wordStartHalf s.unicode
    | .wordEndHalf => .wordEndHalf s.unicode

/-- Puts switches in force. -/
def setSwitches (s : Switches) : Meaning PUnit := modify fun scope => { scope with switches := s }

mutual

/-- The meaning of an expression. A directive holds up to the end of its group. -/
def node : Expression → Meaning Node
  | .empty => return .empty
  | .flags change => do
    setSwitches ((← switches).apply change)
    return .empty
  | .literal l => literalNode l
  | .dot => dotNode
  | .assertion a => assertionNode a
  | .short kind negated => do classNode (← shortSet kind negated)
  | .property query negated => do classNode (← propertySet query negated)
  | .bracketed negated body => do classNode (← foldAndNegate negated (← bodySet body))
  | .repetition body least most greedy => do
    let n ← node body
    return .ofRepetition n least most (greedy != (← switches).swapGreed)
  | .capture index body => do
    let outer ← switches
    let n ← node body
    setSwitches outer
    return .capture index n
  | .group change body => do
    let outer ← switches
    setSwitches (outer.apply change)
    let n ← node body
    setSwitches outer
    return n
  | .alternation branches => do return .ofBranches (← nodes branches)
  | .concatenation parts => do return .ofParts (← nodes parts)

/-- The meanings of expressions that stand one after another. -/
def nodes : List Expression → Meaning (List Node)
  | [] => return []
  | e :: rest => do
    let n ← node e
    let ns ← nodes rest
    return n :: ns

end

end Meaning

/-- The meaning of an expression, and whether it may match bytes that are not UTF-8. -/
def Node.ofExpression? (e : Expression) : Option (Node × Bool) := do
  let (n, stop) ← (Meaning.node e).run { switches := {}, matchesInvalid := false }
  return (n, stop.matchesInvalid)

end PxeLaunch.Regex

import PxeLaunch.Text.Utf8
import PxeLaunch.Unicode.Ranges

/-!
Regular expressions by meaning, in a normal form: literals that stand side by side are one literal,
choices between single characters are classes, and what is common to the start of all branches
stands before the choice. The functions named for a form build that form and keep it normal.
-/

set_option autoImplicit false

namespace PxeLaunch.Regex

open PxeLaunch.Unicode (RangeSet)

/-- Conditions on a position of a byte string. -/
inductive Look where
  | textStart
  | textEnd
  | lineStart
  | lineEnd
  | crlfLineStart
  | crlfLineEnd
  | wordBoundary (unicode : Bool)
  | notWordBoundary (unicode : Bool)
  | wordStart (unicode : Bool)
  | wordEnd (unicode : Bool)
  | wordStartHalf (unicode : Bool)
  | wordEndHalf (unicode : Bool)
  deriving Repr, DecidableEq

/-- A regular expression without names and switches. -/
inductive Node where
  | empty
  | bytes (text : Bytes)
  | byteClass (set : RangeSet)
  | charClass (set : RangeSet)
  | look (l : Look)
  | repetition (body : Node) (least : Nat) (most : Option Nat) (greedy : Bool)
  | capture (index : Nat) (body : Node)
  | alternation (branches : List Node)
  | concatenation (parts : List Node)

namespace Node

/-! ### Comparison and measures -/

mutual

/-- Whether two nodes are built alike. -/
def same : Node → Node → Bool
  | .empty, .empty => true
  | .bytes a, .bytes b => a == b
  | .byteClass s, .byteClass t => s == t
  | .charClass s, .charClass t => s == t
  | .look l, .look m => l == m
  | .repetition body least most greedy, .repetition body₂ least₂ most₂ greedy₂ =>
    least == least₂ && most == most₂ && greedy == greedy₂ && same body body₂
  | .capture i body, .capture j body₂ => i == j && same body body₂
  | .alternation ns, .alternation ms => sameAll ns ms
  | .concatenation ns, .concatenation ms => sameAll ns ms
  | _, _ => false

def sameAll : List Node → List Node → Bool
  | [], [] => true
  | n :: ns, m :: ms => same n m && sameAll ns ms
  | _, _ => false

end

mutual

/-- The number of nodes that a node is made of, itself included. -/
def count : Node → Nat
  | .repetition body _ _ _ => body.count + 1
  | .capture _ body => body.count + 1
  | .alternation branches => countAll branches + 1
  | .concatenation parts => countAll parts + 1
  | _ => 1

def countAll : List Node → Nat
  | [] => 0
  | n :: rest => n.count + countAll rest

end

/-- The number of bytes of a character's UTF-8 form. -/
def charLength (n : Nat) : Nat :=
  if n < 0x80 then 1 else if n < 0x800 then 2 else if n < 0x10000 then 3 else 4

mutual

/-- The length of the shortest match, if there can be a match at all. -/
def shortest : Node → Option Nat
  | .empty => some 0
  | .bytes text => some text.length
  | .byteClass set => set.head?.map fun _ => 1
  | .charClass set => set.head?.map fun r => charLength r.lo
  | .look _ => some 0
  | .repetition body least _ _ => body.shortest.map (· * least)
  | .capture _ body => body.shortest
  | .alternation branches => shortestOfBranches branches
  | .concatenation parts => shortestOfParts parts

/-- The shortest match over all branches; a branch that cannot match leaves it open. -/
def shortestOfBranches : List Node → Option Nat
  | [] => none
  | [n] => n.shortest
  | n :: rest => n.shortest.bind fun a => (shortestOfBranches rest).map (min a)

def shortestOfParts : List Node → Option Nat
  | [] => some 0
  | n :: rest => n.shortest.bind fun a => (shortestOfParts rest).map (a + ·)

end

mutual

/-- The length of the longest match, if there is a bound on it. -/
def longest : Node → Option Nat
  | .empty => some 0
  | .bytes text => some text.length
  | .byteClass set => set.head?.map fun _ => 1
  | .charClass set => set.getLast?.map fun r => charLength r.hi
  | .look _ => some 0
  | .repetition body _ most _ => most.bind fun most => body.longest.map (· * most)
  | .capture _ body => body.longest
  | .alternation branches => longestOfBranches branches
  | .concatenation parts => longestOfParts parts

def longestOfBranches : List Node → Option Nat
  | [] => none
  | [n] => n.longest
  | n :: rest => n.longest.bind fun a => (longestOfBranches rest).map (max a)

def longestOfParts : List Node → Option Nat
  | [] => some 0
  | n :: rest => n.longest.bind fun a => (longestOfParts rest).map (a + ·)

end

/-- Whether a node matches nothing but the empty text. -/
def isEmptyOnly (n : Node) : Bool := n.longest == some 0

mutual

/-- Whether every match begins where the condition holds. -/
def opensWith (l : Look) : Node → Bool
  | .look m => l == m
  | .repetition body least _ _ => 0 < least && opensWith l body
  | .capture _ body => opensWith l body
  | .alternation branches => allOpenWith l branches
  | .concatenation parts => partsOpenWith l parts
  | _ => false

def allOpenWith (l : Look) : List Node → Bool
  | [] => true
  | n :: rest => opensWith l n && allOpenWith l rest

/-- The condition may stand behind parts that only match the empty text. -/
def partsOpenWith (l : Look) : List Node → Bool
  | [] => false
  | n :: rest => opensWith l n || (n.isEmptyOnly && partsOpenWith l rest)

end

mutual

/-- Whether every match ends where the condition holds. -/
def closesWith (l : Look) : Node → Bool
  | .look m => l == m
  | .repetition body least _ _ => 0 < least && closesWith l body
  | .capture _ body => closesWith l body
  | .alternation branches => allCloseWith l branches
  | .concatenation parts => partsCloseWith l parts
  | _ => false

def allCloseWith (l : Look) : List Node → Bool
  | [] => true
  | n :: rest => closesWith l n && allCloseWith l rest

/-- The condition may stand before parts that only match the empty text. -/
def partsCloseWith (l : Look) : List Node → Bool
  | [] => false
  | n :: rest =>
    partsCloseWith l rest || (closesWith l n && rest.all isEmptyOnly)

end

/-! ### Building nodes -/

/-- What never matches. -/
def fail : Node := .byteClass []

/-- The literal of a text. -/
def ofBytes (text : Bytes) : Node := if text.isEmpty then .empty else .bytes text

/-- The class of some octets. -/
def ofByteClass (set : RangeSet) : Node :=
  match set with
  | [r] => if r.lo = r.hi then .bytes [r.lo.toUInt8] else .byteClass set
  | _ => .byteClass set

/-- The class of some code points. -/
def ofCharClass (set : RangeSet) : Node :=
  match set with
  | [] => fail
  | [r] => if r.lo = r.hi then .bytes (Bytes.ofChars [Char.ofNat r.lo]) else .charClass set
  | _ => .charClass set

/-- A repetition. What only matches the empty text need not be matched twice. -/
def ofRepetition (body : Node) (least : Nat) (most : Option Nat) (greedy : Bool) : Node :=
  let once := body.isEmptyOnly
  let least := if once then min least 1 else least
  let most := if once then some (min (most.getD 1) 1) else most
  if most = some 0 then .empty
  else if least = 1 && most = some 1 then body
  else .repetition body least most greedy

/-- The nodes of a sequence with the sequences among them opened up and without empty ones. -/
def flatParts (parts : List Node) : List Node :=
  parts.flatMap fun
    | .concatenation inner => inner
    | .empty => []
    | n => [n]

/-- Joins literals that stand side by side. -/
def joinLiterals : List Node → List Node
  | [] => []
  | n :: rest =>
    match n, joinLiterals rest with
    | .bytes a, .bytes b :: others => .bytes (a ++ b) :: others
    | n, others => n :: others

/-- A sequence. -/
def ofParts (parts : List Node) : Node :=
  match joinLiterals (flatParts parts) with
  | [] => .empty
  | [n] => n
  | ns => .concatenation ns

/-- The character that a node is the literal of. -/
def singleChar? : Node → Option Nat
  | .bytes text =>
    match Utf8.first? text with
    | some (c, size) => if size = text.length then some c.toNat else none
    | none => none
  | _ => none

/-- The octet that a node is the literal of. -/
def singleByte? : Node → Option Nat
  | .bytes [b] => some b.toNat
  | _ => none

/-- The code points that a class matches. -/
def codePoints? : Node → Option RangeSet
  | .charClass set => some set
  | .byteClass set => if set.isAscii then some set else none
  | _ => none

/-- The octets that a class matches. -/
def octets? : Node → Option RangeSet
  | .byteClass set => some set
  | .charClass set => if set.isAscii then some set else none
  | _ => none

/-- The set of several numbers. -/
def setOf (ns : List Nat) : RangeSet := RangeSet.ofRanges (ns.map fun n => ⟨n, n⟩)

/-- The union of several sets. -/
def unionOf (sets : List RangeSet) : RangeSet := RangeSet.ofRanges sets.flatten

/-- The class that stands for a choice between characters, between octets, or between classes. -/
def classOfBranches? (branches : List Node) : Option Node :=
  (branches.mapM singleChar?).map (fun ns => ofCharClass (setOf ns))
    <|> (branches.mapM singleByte?).map (fun ns => ofByteClass (setOf ns))
    <|> (branches.mapM codePoints?).map (fun sets => ofCharClass (unionOf sets))
    <|> (branches.mapM octets?).map (fun sets => ofByteClass (unionOf sets))

/-- The parts of every branch, if all branches are sequences. -/
def sequences? (branches : List Node) : Option (List (List Node)) :=
  branches.mapM fun
    | .concatenation parts => some parts
    | _ => none

/-- The number of parts that two sequences have in common at their start. -/
def commonLength : List Node → List Node → Nat
  | n :: ns, m :: ms => if same n m then commonLength ns ms + 1 else 0
  | _, _ => 0

/-- The number of parts that a sequence shares with each of the others. -/
def sharedLength (first : List Node) (others : List (List Node)) : Nat :=
  others.foldl (fun k parts => min k (commonLength first parts)) first.length

/-- The branches with the alternations among them opened up. -/
def flatBranches (branches : List Node) : List Node :=
  branches.flatMap fun
    | .alternation inner => inner
    | n => [n]

/-- A choice. The fuel bounds how often something common can be put before the choice. -/
def ofBranchesFrom : (fuel : Nat) → List Node → Node
  | fuel, branches =>
    match flatBranches branches with
    | [] => fail
    | [n] => n
    | ns =>
      match classOfBranches? ns with
      | some n => n
      | none =>
        match sequences? ns, fuel with
        | some (first :: others), fuel + 1 =>
          let shared := sharedLength first others
          if shared = 0 then .alternation ns
          else
            let rests := (first :: others).map fun parts => ofParts (parts.drop shared)
            ofParts (first.take shared ++ [ofBranchesFrom fuel rests])
        | _, _ => .alternation ns

/-- A choice. What is put before it leaves the branches for good, so their size is fuel enough. -/
def ofBranches (branches : List Node) : Node := ofBranchesFrom (countAll branches) branches

end Node

end PxeLaunch.Regex

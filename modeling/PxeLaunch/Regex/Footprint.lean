import Std.Data.TreeMap
import PxeLaunch.Regex.Node
import PxeLaunch.Unicode.ByteSequence

/-!
The octets that the automata of an expression take, which are limited. An expression has two
automata over bytes, one for reading forwards and one for reading backwards. A state takes 32
octets, and further ones for the states that it leads to: 8 for each range of bytes and 4 for each
choice.

The states of a class of characters are shared where the forms of its members agree: at the end when
reading forwards, at the start when reading backwards. What can be shared is looked up in a table
with a fixed number of places, of which a later entry takes the place of an earlier one.
-/

set_option autoImplicit false

namespace PxeLaunch.Regex

open PxeLaunch.Unicode (Range RangeSet ByteSequence)

/-- Both automata may take this many octets. -/
def maxOctets : Nat := 10 * 1024 * 1024

/-- The direction in which an automaton reads. -/
inductive Direction where
  | forwards
  | backwards
  deriving Repr, DecidableEq

/-- The states of an automaton so far, and the octets beyond those that every state takes. -/
structure Footprint where
  states : Nat
  extra : Nat
  deriving Repr, DecidableEq

def Footprint.octets (f : Footprint) : Nat := 32 * f.states + f.extra

/-- Laying out an automaton fails when there is no room left. -/
abbrev Layout := StateT Footprint Option

namespace Layout

/-- Takes further octets. -/
def take (extra : Nat) : Layout PUnit := do
  let f ← get
  let next : Footprint := { f with extra := f.extra + extra }
  if next.octets ≤ maxOctets then set next else failure

/-- Adds a state, whose number is returned. -/
def addState (extra : Nat) : Layout Nat := do
  let f ← get
  let next : Footprint := ⟨f.states + 1, f.extra + extra⟩
  if next.octets ≤ maxOctets then
    set next
    return f.states
  else failure

/-- Adds a state that leads on by itself. -/
def addPlain : Layout PUnit := discard (addState 0)

/-- Adds a state with a choice between some others. -/
def addChoice (branches : Nat) : Layout PUnit := discard (addState (4 * branches))

/-- Does the same again and again. -/
def repeatFrom (act : Layout PUnit) : Nat → Footprint → Option (PUnit × Footprint)
  | 0, f => some ((), f)
  | n + 1, f =>
    match act f with
    | none => none
    | some (_, g) => repeatFrom act n g

/-- Does the same `n` times. -/
def times (n : Nat) (act : Layout PUnit) : Layout PUnit := repeatFrom act n

/-! ### Tables of states that can be shared -/

/-- The place of a key in a table with `size` places. -/
def placeOf (size : UInt64) (key : List Nat) : Nat :=
  let hash := key.foldl (fun h n => (h ^^^ n.toUInt64) * 1099511628211) 14695981039346656037
  (hash % size).toNat

/-- What stands at the places of a table: a key and the number of its state. -/
abbrev Shared := Std.TreeMap Nat (List Nat × Nat)

/-- The state of a key, if it stands in the table. -/
def Shared.state? (t : Shared) (place : Nat) (key : List Nat) : Option Nat :=
  match t[place]? with
  | some (found, state) => if found = key then some state else none
  | none => none

/-! ### Classes read forwards -/

/-- A state that is not finished: the transitions that are, each with a range of bytes and the
number of the next state, latest first, and the range of the one that is not. -/
structure Open where
  finished : List (Range × Nat)
  pending : Option Range

/-- A state with its pending transition finished. -/
def Open.finish (o : Open) (next : Nat) : Open :=
  match o.pending with
  | some r => ⟨(r, next) :: o.finished, none⟩
  | none => o

/-- The transitions of a state as a key. -/
def Open.key (o : Open) : List Nat := o.finished.reverse.flatMap fun (r, next) => [r.lo, r.hi, next]

def forwardPlaces : UInt64 := 10000

/-- The number of a finished state, which is added unless it can be shared. -/
def close (o : Open) (t : Shared) : Layout (Nat × Shared) := do
  let key := o.key
  let place := placeOf forwardPlaces key
  match t.state? place key with
  | some state => return (state, t)
  | none =>
    let state ← addState (8 * o.finished.length)
    return (state, t.insert place (key, state))

/-- Closes a chain of states from its end on, where it leads to `target`. -/
def closeChain (target : Nat) : List Open → Shared → Layout (Nat × Shared)
  | [], t => return (target, t)
  | o :: rest, t => do
    let (next, t) ← closeChain target rest t
    close (o.finish next) t

/-- Closes a chain of states but for those at the start that go on as `form` does; what is left of
the form is appended. -/
def addForm (target : Nat) : ByteSequence → List Open → Shared → Layout (List Open × Shared)
  | _, [], t => return ([], t)
  | [], os, t => return (os, t)
  | r :: form, o :: rest, t => do
    if o.pending = some r && !form.isEmpty then
      let (rest, t) ← addForm target form rest t
      return (o :: rest, t)
    else
      let (next, t) ← closeChain target rest t
      let first : Open := { o.finish next with pending := some r }
      return (first :: form.map fun q => ⟨[], some q⟩, t)

def addForms (target : Nat) : List ByteSequence → List Open → Shared → Layout (List Open × Shared)
  | [], os, t => return (os, t)
  | form :: rest, os, t => do
    let (os, t) ← addForm target form os t
    addForms target rest os t

/-- The states of a class of characters that is read forwards. -/
def charsForwards (forms : List ByteSequence) : Layout PUnit := do
  let target ← addState 0
  let (os, t) ← addForms target forms [⟨[], none⟩] {}
  discard (closeChain target os t)

/-! ### Classes read backwards -/

def backwardPlaces : UInt64 := 1000

/-- Adds the states of a form, whose first byte is read last, before the state `next`. -/
def addFormBefore : ByteSequence → (next : Nat) → Shared → Layout Shared
  | [], _, t => return t
  | r :: form, next, t => do
    let key := [next, r.lo, r.hi]
    let place := placeOf backwardPlaces key
    match t.state? place key with
    | some state => addFormBefore form state t
    | none =>
      let state ← addState 0
      addFormBefore form state (t.insert place (key, state))

def addFormsBefore (target : Nat) : List ByteSequence → Shared → Layout PUnit
  | [], _ => pure ()
  | form :: rest, t => do
    let t ← addFormBefore form target t
    take 4
    addFormsBefore target rest t

/-- The states of a class of characters that is read backwards: a choice between its forms. -/
def charsBackwards (forms : List ByteSequence) : Layout PUnit := do
  addPlain
  let target ← addState 0
  addFormsBefore target forms {}

/-! ### Choices between literals -/

/-- Literals by their common beginnings. A place of the tree has groups of next bytes; a literal
that ends there begins a new group. -/
inductive Trie where
  | place (groups : List (List (UInt8 × Trie))) (current : List (UInt8 × Trie))

namespace Trie

def leaf : Trie := .place [] []

/-- Whether nothing follows. -/
def isLeaf : Trie → Bool
  | .place groups current => groups.all List.isEmpty && current.isEmpty

/-- Notes that a literal ends here. -/
def endHere : Trie → Trie
  | .place groups current =>
    if groups.all List.isEmpty && current.isEmpty && !groups.isEmpty then .place groups current
    else .place (groups ++ [current]) []

/-- Puts a byte into a group in order, or finds it there. -/
def alter (b : UInt8) (f : Trie → Trie) : List (UInt8 × Trie) → List (UInt8 × Trie)
  | [] => [(b, f leaf)]
  | (c, t) :: rest =>
    if b = c then (c, f t) :: rest
    else if b < c then (b, f leaf) :: (c, t) :: rest
    else (c, t) :: alter b f rest

/-- Adds a literal. -/
def add : Bytes → Trie → Trie
  | [], t => t.endHere
  | b :: rest, .place groups current => .place groups (alter b (add rest) current)

/-- The tree of several literals. -/
def ofLiterals (literals : List Bytes) : Trie := literals.foldl (fun t l => t.add l) leaf

end Trie

mutual

/-- The states of a tree. Every group but the last ends with a literal, which is one more branch. -/
def layTrie : Trie → Layout PUnit
  | .place groups current => do
    layGroups groups
    layGroup current
    let isUsed := !current.isEmpty
    addChoice (countGroups groups + (if isUsed then 1 else 0))

/-- The number of branches for groups that a literal ends. -/
def countGroups : List (List (UInt8 × Trie)) → Nat
  | [] => 0
  | g :: rest => (if g.isEmpty then 1 else 2) + countGroups rest

def layGroups : List (List (UInt8 × Trie)) → Layout PUnit
  | [] => pure ()
  | g :: rest => do
    layGroup g
    layGroups rest

/-- The states of a group: those of what follows, and one that chooses by the next byte. -/
def layGroup (g : List (UInt8 × Trie)) : Layout PUnit := do
  layBelow g
  match g.length with
  | 0 => pure ()
  | 1 => addPlain
  | n => discard (addState (8 * n))

def layBelow : List (UInt8 × Trie) → Layout PUnit
  | [] => pure ()
  | (_, t) :: rest => do
    if t.isLeaf then pure () else layTrie t
    layBelow rest

end

/-- The texts of branches that are all literals. -/
def literals? (branches : List Node) : Option (List Bytes) :=
  branches.mapM fun
    | .bytes text => some text
    | _ => none

/-- The states of a choice between literals. -/
def layLiterals (d : Direction) (literals : List Bytes) : Layout PUnit := do
  addPlain
  let inOrder := match d with
    | .forwards => literals
    | .backwards => literals.map List.reverse
  layTrie (.ofLiterals inOrder)

/-! ### Expressions -/

/-- The states of a class within ASCII, or of one of octets. -/
def layRanges (set : RangeSet) : Layout PUnit := do
  addPlain
  discard (addState (8 * set.length))

/-- The states of a class of characters. -/
def layChars (d : Direction) (set : RangeSet) : Layout PUnit :=
  if set.isAscii then layRanges set
  else
    match d with
    | .forwards => charsForwards (ByteSequence.ofSet set)
    | .backwards => charsBackwards (ByteSequence.ofSet set)

/-- The states of a repetition whose body's states are laid out by `body`. -/
def layRepetition (body : Layout PUnit) (matchesEmpty : Bool) (least : Nat) (most : Option Nat) :
    Layout PUnit :=
  match most with
  | some most =>
    if least = 0 && most = 1 then do
      addChoice 2
      body
      addPlain
    else if least = most then times least body
    else do
      if least = 0 then addPlain
      times least body
      addPlain
      times (most - least) do
        addChoice 2
        body
  | none =>
    if least = 0 then
      if matchesEmpty then do
        body
        addChoice 2
        addChoice 2
        addPlain
      else do
        addChoice 2
        body
    else do
      times least body
      addChoice 2

mutual

/-- The states of a node. -/
def layNode (d : Direction) : Node → Layout PUnit
  | .empty => addPlain
  | .bytes text => times text.length addPlain
  | .byteClass set => layRanges set
  | .charClass set => layChars d set
  | .look _ => addPlain
  | .repetition body least most _ =>
    let matchesEmpty := body.shortest.getD 0 = 0
    layRepetition (layNode d body) matchesEmpty least most
  | .capture _ body =>
    match d with
    | .forwards => do
      addPlain
      layNode d body
      addPlain
    | .backwards => layNode d body
  | .alternation branches =>
    match literals? branches with
    | some literals => layLiterals d literals
    | none => layBranches d 0 branches
  | .concatenation parts =>
    match d with
    | .forwards => layParts d parts
    | .backwards => layPartsBackwards d parts

/-- The states of branches, of which some have been laid out. Those of the choice itself follow the
second branch. -/
def layBranches (d : Direction) : (laid : Nat) → List Node → Layout PUnit
  | _, [] => pure ()
  | laid, n :: rest => do
    layNode d n
    if laid = 1 then
      addChoice 2
      addPlain
    else if 1 < laid then take 4
    layBranches d (laid + 1) rest

def layParts (d : Direction) : List Node → Layout PUnit
  | [] => pure ()
  | n :: rest => do
    layNode d n
    layParts d rest

def layPartsBackwards (d : Direction) : List Node → Layout PUnit
  | [] => pure ()
  | n :: rest => do
    layPartsBackwards d rest
    layNode d n

end

/-- The states of a whole expression. Unless it matches at one end of the text only, it is preceded
by states that skip bytes. -/
def layWhole (d : Direction) (n : Node) : Layout PUnit := do
  let isAnchored := match d with
    | .forwards => n.opensWith .textStart
    | .backwards => n.closesWith .textEnd
  if isAnchored then addPlain
  else
    addChoice 2
    layRanges RangeSet.octets
  layNode d (.capture 0 n)
  addPlain

end Layout

/-- Whether both automata of an expression keep to the limit. -/
def Node.fits (n : Node) : Bool :=
  let laid (d : Direction) : Bool := ((Layout.layWhole d n).run ⟨0, 0⟩).isSome
  laid .forwards && laid .backwards

end PxeLaunch.Regex

import Std.Data.HashMap
import PxeLaunch.Script.Utility.Records.Value

/-!
Tables of values. The keys of a table come in an order that depends on their spelling and on the
accesses: they stand in groups, and in a group the latest comes first. Keys that are whole numbers
have groups of their own until a key that is none is looked up or all keys are asked for.
-/

set_option autoImplicit false

namespace PxeLaunch.Script.Records

/-- The number of groups at first. -/
def fewGroups : Nat := 64

/-- How many keys a group has on the average before there are twice as many groups. -/
def groupSize : Nat := 12

/-- A number that depends on all characters of a text. -/
def scatter (cs : Chars) : Nat :=
  cs.foldl (fun h c => (h ^^^ c.toNat) * 0x01000193 % 0x100000000) 0x811c9dc5

/-- Texts are keys of look-up tables by the code points of their characters. -/
instance : Hashable Chars where
  hash cs := cs.foldl (fun h c => mixHash h (hash c.val)) 7

/-- The values of a table by their keys, and the order of the keys: the numbers in their groups, and
the texts in theirs. A row has the numbers from one on as its keys. -/
structure Table where
  values : Std.HashMap Chars Value
  numbers : Array (List Int)
  texts : Option (Array (List Chars))
  row : Nat

namespace Table

def empty : Table := ⟨{}, Array.replicate fewGroups [], none, 0⟩

def size (t : Table) : Nat := t.values.size

/-- The group of a number, among some. -/
def groupOfNumber (count : Nat) (n : Int) : Nat := (n % count).toNat

/-- The group of a text, among some. -/
def groupOfText (count : Nat) (cs : Chars) : Nat := scatter cs % count

/-- Puts a number in front of its group. -/
def raiseNumber (n : Int) (groups : Array (List Int)) : Array (List Int) :=
  groups.modify (groupOfNumber groups.size n) fun group => n :: group.filter (· != n)

/-- Puts a text in front of its group. -/
def raiseText (cs : Chars) (groups : Array (List Chars)) : Array (List Chars) :=
  groups.modify (groupOfText groups.size cs) fun group => cs :: group.filter (· != cs)

/-- Twice as many groups, in which the keys stand as they did. -/
def doubled {α : Type} (groupOf : Nat → α → Nat) (groups : Array (List α)) : Array (List α) :=
  let count := groups.size
  let inGroup (i : Nat) (group : List α) : List α :=
    group.filter fun key => groupOf (2 * count) key = i
  groups.mapIdx inGroup ++ groups.mapIdx fun i group => inGroup (i + count) group

/-- The table with as many groups as its size calls for. -/
def spread (size : Nat) : (fuel : Nat) → Table → Table
  | 0, t => t
  | fuel + 1, t =>
    if size ≤ groupSize * t.numbers.size then t
    else spread size fuel { t with
      numbers := doubled groupOfNumber t.numbers
      texts := t.texts.map (doubled groupOfText) }

/-- The keys of a row in groups. -/
def unrolled (t : Table) : Table :=
  let t := if t.row = 0 then t else spread t.row t.row t
  let numbers := (List.range t.row).foldl (fun groups i =>
    raiseNumber ((i + 1 : Nat) : Int) groups) t.numbers
  { t with numbers := numbers, row := 0 }

/-- The table with all its keys among the texts. -/
def withTexts (t : Table) : Table :=
  let t := t.unrolled
  let known := t.texts.getD (Array.replicate t.numbers.size [])
  let texts := t.numbers.foldl (fun groups group =>
    group.foldl (fun groups n =>
      let cs := intText n
      let present := ((groups[groupOfText groups.size cs]?).getD []).contains cs
      if present then groups else raiseText cs groups) groups) known
  { t with texts := some texts }

/-- The keys in their order. -/
def keys (t : Table) : List Chars × Table :=
  let t := t.withTexts
  (((t.texts.getD #[]).toList).flatten, t)

/-- Notes that a key has been looked up that stands in the table now. -/
def touched (t : Table) (number? : Option Int) (key : Chars) : Table :=
  match number? with
  | some n =>
    if 1 ≤ n && n ≤ t.row then t
    else
      let t := t.unrolled
      let known := ((t.numbers[groupOfNumber t.numbers.size n]?).getD []).contains n
      let texts := if known then t.texts else t.texts.map (raiseText key)
      { t with numbers := raiseNumber n t.numbers, texts := texts }
  | none =>
    let t := t.withTexts
    { t with texts := t.texts.map (raiseText key) }

/-- The value of a key, if it is there. -/
def get? (t : Table) (key : Chars) : Option Value := t.values.get? key

def contains (t : Table) (key : Chars) : Bool := t.values.contains key

/-- Gives a key a value. -/
def put (t : Table) (number? : Option Int) (key : Chars) (v : Value) : Table :=
  let t := t.touched number? key
  let values := t.values.insert key v
  { (if values.size = t.size then t else spread values.size 1 t) with values := values }

/-- Takes a key away. -/
def erase (t : Table) (number? : Option Int) (key : Chars) : Table :=
  if !t.values.contains key then t
  else if t.size = 1 then empty
  else
    let t := t.unrolled
    let t := if number?.isSome then t else t.withTexts
    { t with
      values := t.values.erase key
      numbers := t.numbers.map fun group => group.filter fun n => intText n != key
      texts := t.texts.map fun groups =>
        groups.modify (groupOfText groups.size key) fun group => group.filter (· != key) }

/-- A table with values under the numbers from one on. -/
def ofRow (vs : List Value) : Table :=
  let (values, _) := vs.foldl (fun (values, n) v => (values.insert (natText n) v, n + 1))
    (({} : Std.HashMap Chars Value), 1)
  ⟨values, Array.replicate fewGroups [], none, vs.length⟩

end Table

end PxeLaunch.Script.Records

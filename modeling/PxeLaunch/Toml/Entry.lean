import PxeLaunch.Toml.Value

/-!
Tables while a document is read. It matters how a table came about: one with a header of its own
takes no second header, and dotted keys extend only tables that dotted keys made.
-/

set_option autoImplicit false

namespace PxeLaunch.Toml

/-- How a table came about: by a header, as the parent of a header, or by a dotted key. -/
inductive Origin where
  | header
  | implied
  | dotted
  deriving Repr, DecidableEq

/-- What stands under a key. -/
inductive Entry where
  | value (v : Value)
  | table (origin : Origin) (entries : List (String × Entry))
  | tables (items : List (List (String × Entry)))

/-- The keys of a table with what stands under them, in the order of the document. -/
abbrev Entries := List (String × Entry)

namespace Entries

def get? (es : Entries) (key : String) : Option Entry := es.lookup key

/-- Puts something under a key in the place that the key has, or at the end. -/
def put (key : String) (e : Entry) : Entries → Entries
  | [] => [(key, e)]
  | (k, old) :: rest => if k = key then (k, e) :: rest else (k, old) :: put key e rest

def remove (key : String) (es : Entries) : Entries := es.filter fun (k, _) => k != key

/-- Adds a new key. -/
def insertNew (key : String) (v : Value) (es : Entries) : Option Entries :=
  match es.get? key with
  | none => some (es ++ [(key, .value v)])
  | some _ => none

/-- Changes the last item of a list of tables. -/
def changeLast (f : Entries → Option Entries) : List Entries → Option (List Entries)
  | [] => none
  | [es] => (f es).map fun es => [es]
  | es :: rest => (changeLast f rest).map (es :: ·)

/-- Assigns a value to a dotted key. Tables on the way are made, or may have been made by dotted
keys or implied by headers; the innermost one has to be made by dotted keys. -/
def assignDotted (v : Value) : List String → Origin → Entries → Option Entries
  | [], _, _ => none
  | [key], origin, es => if origin = .dotted then es.insertNew key v else none
  | key :: rest, _, es =>
    match es.get? key with
    | none => (assignDotted v rest .dotted []).map fun inner => es ++ [(key, .table .dotted inner)]
    | some (.value _) => none
    | some (.table .header _) => none
    | some (.table origin inner) =>
      (assignDotted v rest origin inner).map fun inner => es.put key (.table origin inner)
    | some (.tables items) =>
      (changeLast (assignDotted v rest .header) items).map fun items => es.put key (.tables items)

/-- Assigns a value to a key of a table that a header opened. -/
def assign (es : Entries) (path : List String) (v : Value) : Option Entries :=
  match path with
  | [key] => es.insertNew key v
  | _ => assignDotted v path .header es

/-- Changes the table at the end of a path of headers. Tables on the way are made as needed; of a
list of tables the last one is meant. -/
def descend (f : Entries → Option Entries) : List String → Entries → Option Entries
  | [], es => f es
  | key :: rest, es =>
    match es.get? key with
    | none => (descend f rest []).map fun inner => es ++ [(key, .table .implied inner)]
    | some (.value _) => none
    | some (.table origin inner) =>
      (descend f rest inner).map fun inner => es.put key (.table origin inner)
    | some (.tables items) =>
      (changeLast (descend f rest) items).map fun items => es.put key (.tables items)

/-- Opens the table of a header. A table that other headers implied moves to the end. -/
def openTable (key : String) (es : Entries) : Option Entries :=
  match es.get? key with
  | none => some (es ++ [(key, .table .header [])])
  | some (.table .implied inner) => some (es.remove key ++ [(key, .table .header inner)])
  | some _ => none

/-- Opens a further item of a list of tables. -/
def openItem (key : String) (es : Entries) : Option Entries :=
  match es.get? key with
  | none => some (es ++ [(key, .tables [[]])])
  | some (.tables items) => some (es.put key (.tables (items ++ [[]])))
  | some _ => none

end Entries

mutual

/-- The value that an entry stands for. -/
def Entry.toValue : Entry → Value
  | .value v => v
  | .table _ entries => .table (entriesToTable entries)
  | .tables items => .array .headed (itemsToValues items)

def entriesToTable : List (String × Entry) → Table
  | [] => []
  | (k, e) :: rest => (k, e.toValue) :: entriesToTable rest

def itemsToValues : List (List (String × Entry)) → List Value
  | [] => []
  | es :: rest => .table (entriesToTable es) :: itemsToValues rest

end

/-- The table that the entries stand for. -/
def Entries.toTable (es : Entries) : Table := entriesToTable es

end PxeLaunch.Toml

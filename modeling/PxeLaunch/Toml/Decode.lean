import PxeLaunch.Text.Escaped
import PxeLaunch.Toml.Document

/-!
Turning values into data. The keys of a table are read in the order of the document and the first
bad value is reported; keys that are missing are reported after that, in the order of the data's
fields.
-/

set_option autoImplicit false

namespace PxeLaunch.Toml

/-- Why a value does not fit the data. -/
inductive DecodeError where
  | missingField (key : String)
  | unknownField (key : String) (expected : List String)
  | unknownVariant (name : String) (expected : List String)
  | wrongType (found : Value) (expected : String)
  | outOfRange (found : Int) (expected : String)
  | wrongLength (found : Nat) (expected : String)
  | notStringOrTable
  | noVariant
  | severalVariants
  | variantArrayNotEmpty
  | variantTableNotEmpty
  | variantNotTable (found : String)

/-- Why a document cannot be used. -/
inductive Error where
  | malformed
  | unfit (cause : DecodeError)

/-- A value in a message. -/
def Value.describe : Value → String
  | .string s => s!"string {Escaped.text s}"
  | .integer n => s!"integer `{n}`"
  | .float x => s!"floating point `{x.text}`"
  | .boolean b => s!"boolean `{b}`"
  | .datetime _ => "map"
  | .array _ _ => "sequence"
  | .table _ => "map"

/-- The name of a value's kind. -/
def Value.kind : Value → String
  | .string _ => "string"
  | .integer _ => "integer"
  | .float _ => "float"
  | .boolean _ => "boolean"
  | .datetime _ => "datetime"
  | .array _ _ => "array"
  | .table _ => "inline table"

namespace DecodeError

/-- The names that were possible. -/
def choices (names : List String) : String :=
  match names with
  | [a] => s!"expected `{a}`"
  | [a, b] => s!"expected `{a}` or `{b}`"
  | _ => "expected one of " ++ ", ".intercalate (names.map fun n => s!"`{n}`")

/-- The text of an error. -/
def message : DecodeError → String
  | .missingField key => s!"missing field `{key}`"
  | .unknownField key expected => s!"unknown field `{key}`, {choices expected}"
  | .unknownVariant name expected => s!"unknown variant `{name}`, {choices expected}"
  | .wrongType found expected => s!"invalid type: {found.describe}, expected {expected}"
  | .outOfRange found expected => s!"invalid value: integer `{found}`, expected {expected}"
  | .wrongLength found expected => s!"invalid length {found}, expected {expected}"
  | .notStringOrTable => "wanted string or table"
  | .noVariant => "wanted exactly 1 element, found 0 elements"
  | .severalVariants => "wanted exactly 1 element, more than 1 element"
  | .variantArrayNotEmpty => "expected empty array"
  | .variantTableNotEmpty => "expected empty table"
  | .variantNotTable found => s!"expected table, found {found}"

end DecodeError

/-- The text of an error; what is malformed is not told apart. -/
def Error.message : Error → String
  | .malformed => "syntax"
  | .unfit cause => cause.message

namespace Decode

/-- The result of reading a value. -/
abbrev Result (α : Type) := Except DecodeError α

def string : Value → Result String
  | .string s => .ok s
  | v => .error (.wrongType v "a string")

def word32 : Value → Result UInt32
  | .integer n =>
    if 0 ≤ n && n < 0x100000000 then .ok n.toNat.toUInt32 else .error (.outOfRange n "u32")
  | v => .error (.wrongType v "u32")

/-- The choice with a name. -/
def choice {α : Type} (names : List (String × α)) (name : String) : Result α :=
  match names.lookup name with
  | some a => .ok a
  | none => .error (.unknownVariant name (names.map (·.1)))

/-- A choice is named by a string, or by the only key of a table that has nothing under it. -/
def variant {α : Type} (names : List (String × α)) : Value → Result α
  | .string name => choice names name
  | .table [] => .error .noVariant
  | .table [(name, payload)] => do
    let a ← choice names name
    match payload with
    | .table [] => .ok a
    | .array _ [] => .ok a
    | .table _ => .error .variantTableNotEmpty
    | .array .bracketed _ => .error .variantTableNotEmpty
    | .array .headed _ => .error .variantArrayNotEmpty
    | v => .error (.variantNotTable v.kind)
  | .table _ => .error .severalVariants
  | _ => .error .notStringOrTable

/-- Reads the items of an array in order. -/
def items {α : Type} (read : Value → Result α) : List Value → Result (List α)
  | [] => .ok []
  | v :: rest => do
    let a ← read v
    let as ← items read rest
    return a :: as

def list {α : Type} (read : Value → Result α) : Value → Result (List α)
  | .array _ vs => items read vs
  | v => .error (.wrongType v "a sequence")

/-- Reads the values of a table in order. -/
def values {α : Type} (read : Value → Result α) : Table → Result (List (String × α))
  | [] => .ok []
  | (key, v) :: rest => do
    let a ← read v
    let as ← values read rest
    return (key, a) :: as

/-- The key that a date or a time has when it is taken for a table. -/
def datetimeKey : String := "$__toml_private_datetime"

/-- A date or a time taken for a table: its text stands under a key of its own. -/
def datetimeTable (d : Datetime) : Table := [(datetimeKey, .string d.text)]

def map {α : Type} (read : Value → Result α) : Value → Result (List (String × α))
  | .table entries => values read entries
  | .datetime d => values read (datetimeTable d)
  | v => .error (.wrongType v "a map")

/-- A field of a record. It adds what it reads to the draft of the record. -/
structure Field (δ : Type) where
  key : String
  read : Value → δ → Result δ
  /-- The field may be left out of a record that is written as an array. -/
  hasDefault : Bool := true

/-- How a record is read: into a draft, which is then completed. -/
structure Shape (δ α : Type) where
  name : String
  fields : List (Field δ)
  blank : δ
  complete : δ → Result α
  /-- Keys that are no field are refused. -/
  isStrict : Bool := false

namespace Shape

variable {δ α : Type}

/-- Reads the keys of a table in order. -/
def readTable (shape : Shape δ α) (draft : δ) : Table → Result δ
  | [] => .ok draft
  | (key, v) :: rest =>
    match shape.fields.find? (·.key == key) with
    | some field => do readTable shape (← field.read v draft) rest
    | none =>
      if shape.isStrict then .error (.unknownField key (shape.fields.map (·.key)))
      else readTable shape draft rest

/-- The number of fields in words. -/
def countText (n : Nat) : String := if n = 1 then "1 element" else s!"{n} elements"

/-- Reads the items of an array as the fields in order; `index` fields have been read. -/
def readArray (shape : Shape δ α) (draft : δ) (index : Nat) :
    List (Field δ) → List Value → Result δ
  | [], _ => .ok draft
  | field :: fields, v :: rest => do
    readArray shape (← field.read v draft) (index + 1) fields rest
  | field :: fields, [] =>
    if field.hasDefault then readArray shape draft (index + 1) fields []
    else .error (.wrongLength index s!"{shape.name} with {countText shape.fields.length}")

/-- Reads a record. -/
def read (shape : Shape δ α) : Value → Result α
  | .table entries => do shape.complete (← shape.readTable shape.blank entries)
  | .array _ vs => do shape.complete (← shape.readArray shape.blank 0 shape.fields vs)
  | .datetime d => do shape.complete (← shape.readTable shape.blank (datetimeTable d))
  | v => .error (.wrongType v shape.name)

end Shape

/-- A field that the record cannot do without. -/
def required {α : Type} (key : String) : Option α → Result α
  | some a => .ok a
  | none => .error (.missingField key)

end Decode

/-- Reads a whole document as a record. -/
def decode {δ α : Type} (shape : Decode.Shape δ α) (text : String) : Except Error α :=
  match Document.parse? text with
  | none => .error .malformed
  | some table =>
    match shape.read (.table table) with
    | .ok a => .ok a
    | .error cause => .error (.unfit cause)

end PxeLaunch.Toml

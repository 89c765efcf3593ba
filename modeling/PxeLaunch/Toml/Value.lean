import PxeLaunch.Text.Binary64
import PxeLaunch.Toml.Datetime

/-!
The values that a document holds. Tables keep their keys in the order of the document.
-/

set_option autoImplicit false

namespace PxeLaunch.Toml

/-- How an array is written: in brackets, or as tables that have a header each. -/
inductive ArrayForm where
  | bracketed
  | headed
  deriving Repr, DecidableEq

/-- A value. -/
inductive Value where
  | string (s : String)
  | integer (n : Int)
  | float (x : Binary64)
  | boolean (b : Bool)
  | datetime (d : Datetime)
  | array (form : ArrayForm) (items : List Value)
  | table (entries : List (String × Value))

/-- Keys with their values, in the order of the document. -/
abbrev Table := List (String × Value)

end PxeLaunch.Toml

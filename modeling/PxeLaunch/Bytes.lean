/-!
Byte strings. Console output, paths and process arguments are bytes that need not be text, so they
are lists of octets; text enters them through its UTF-8 form.
-/

set_option autoImplicit false

namespace PxeLaunch

/-- A string of octets. -/
abbrev Bytes := List UInt8

namespace Bytes

/-- The UTF-8 form of a list of characters. -/
def ofChars (cs : List Char) : Bytes := cs.flatMap String.utf8EncodeChar

/-- The UTF-8 form of a text. -/
def ofString (s : String) : Bytes := ofChars s.toList

/-- The octet that ends a line. -/
def newline : UInt8 := 10

/-- The octet that may stand before the newline in a line's terminator. -/
def carriageReturn : UInt8 := 13

/-- The octet that starts a control sequence. -/
def escape : UInt8 := 27

/-- The octet between the components of a path. -/
def slash : UInt8 := 47

/-- The octet between the settings of an emulator option. -/
def comma : UInt8 := 44

/-- Whether `part` stands somewhere in the byte string. -/
def holds (part : Bytes) : Bytes → Bool
  | [] => part.isEmpty
  | b :: rest => part.isPrefixOf (b :: rest) || holds part rest

/-- The order of byte strings is that of their first difference; a beginning comes first. -/
def before : Bytes → Bytes → Bool
  | [], [] => false
  | [], _ :: _ => true
  | _ :: _, [] => false
  | a :: as, b :: bs => if a < b then true else if b < a then false else before as bs

end Bytes

end PxeLaunch

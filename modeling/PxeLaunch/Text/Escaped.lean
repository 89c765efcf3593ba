import PxeLaunch.Unicode.Category
import PxeLaunch.Unicode.Property
import PxeLaunch.Unicode.Recent

/-!
Texts in messages, in double quotes and with everything escaped that could not be seen.
-/

set_option autoImplicit false

namespace PxeLaunch.Escaped

/-- The categories whose code points cannot be seen. -/
def invisible : List Unicode.Category.Leaf :=
  [.control, .format, .privateUse, .lineSeparator, .paragraphSeparator, .spaceSeparator]

/-- The letters that fill the place of a part of a Hangul syllable and are not seen. -/
def fillers : Unicode.RangeSet := [⟨0x115F, 0x1160⟩, ⟨0x3164, 0x3164⟩, ⟨0xFFA0, 0xFFA0⟩]

/-- The sound marks of halfwidth Katakana. They stand in a cell of their own. -/
def halfwidthMarks : Unicode.RangeSet := [⟨0xFF9E, 0xFF9F⟩]

/-- Whether a code point attaches itself to the character before it. -/
def attaches (n : Nat) : Bool :=
  Unicode.Property.graphemeExtend.contains n && !halfwidthMarks.contains n

/-- Whether a character past ASCII is shown as it is: it is assigned, visible, and does not attach
itself to the character before it. -/
def isVisible (c : Char) : Bool :=
  let n := c.toNat
  !fillers.contains n &&
    (Unicode.Recent.visible.contains n ||
      Unicode.Category.leaves.any (fun l => !invisible.contains l && l.ranges.contains n) &&
        !attaches n)

/-- A number in hexadecimal. -/
def hexText (n : Nat) : String := String.ofList (Nat.toDigits 16 n)

/-- A character inside quotes. -/
def char (c : Char) : String :=
  match c with
  | '"' => "\\\""
  | '\\' => "\\\\"
  | '\n' => "\\n"
  | '\r' => "\\r"
  | '\t' => "\\t"
  | '\x00' => "\\0"
  | _ =>
    if (0x20 ≤ c.toNat && c.toNat < 0x7F) || (0x7F < c.toNat && isVisible c) then
      String.singleton c
    else "\\u\x7b" ++ hexText c.toNat ++ "\x7d"

/-- A text in quotes. -/
def text (s : String) : String := "\"" ++ String.join (s.toList.map char) ++ "\""

end PxeLaunch.Escaped

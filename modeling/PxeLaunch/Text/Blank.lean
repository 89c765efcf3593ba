import PxeLaunch.Unicode.Property

/-!
Blank characters: those of the property White_Space. A text is trimmed at its end by leaving out the
blanks after its last other character.
-/

set_option autoImplicit false

namespace PxeLaunch.Blank

/-- Whether a character is blank. -/
def isBlank (c : Char) : Bool := Unicode.Property.whiteSpace.contains c.toNat

/-- Whether a text holds nothing but blanks. -/
def isAllBlank (s : String) : Bool := s.toList.all isBlank

/-- A text without the blanks at its end. -/
def trimEnd (s : String) : String := String.ofList (s.toList.reverse.dropWhile isBlank).reverse

end PxeLaunch.Blank

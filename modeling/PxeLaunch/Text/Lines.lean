/-!
Texts made of lines.
-/

set_option autoImplicit false

namespace PxeLaunch.Lines

/-- The lines with a newline after each. -/
def ofList (lines : List String) : String := String.join (lines.map (· ++ "\n"))

/-- The text with blanks after it up to a width. -/
def padded (width : Nat) (s : String) : String :=
  s ++ String.ofList (List.replicate (width - s.length) ' ')

end PxeLaunch.Lines

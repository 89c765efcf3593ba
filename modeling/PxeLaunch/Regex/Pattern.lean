import PxeLaunch.Regex.Footprint
import PxeLaunch.Regex.Meaning
import PxeLaunch.Regex.Reader
import PxeLaunch.Regex.Search

/-!
Compiled patterns. A pattern is compiled for text, where it must not match bytes that are not UTF-8
and starts at characters only, or for bytes, where it may do both.
-/

set_option autoImplicit false

namespace PxeLaunch.Regex

/-- What a pattern is going to be matched against. -/
inductive Subject where
  | text
  | bytes
  deriving Repr, DecidableEq

/-- Why a pattern cannot be compiled. -/
inductive PatternError where
  | badNotation
  | tooLarge
  deriving Repr, DecidableEq

/-- The text of an error; what is wrong with a notation is not told apart. -/
def PatternError.message : PatternError → String
  | .badNotation => "<regex error>"
  | .tooLarge => s!"Compiled regex exceeds size limit of {maxOctets} bytes."

/-- A compiled pattern. -/
structure Pattern where
  source : String
  subject : Subject
  program : Program

/-- Reads a notation and compiles it. -/
def Pattern.compile (subject : Subject) (source : String) : Except PatternError Pattern :=
  match parse? source.toList with
  | none => .error .badNotation
  | some parsed =>
    match Node.ofExpression? parsed.expression with
    | none => .error .badNotation
    | some (node, matchesInvalid) =>
      if subject = .text && matchesInvalid then .error .badNotation
      else if !node.fits then .error .tooLarge
      else .ok ⟨source, subject, .ofNode node parsed.names⟩

/-- The groups of a match. -/
structure Captures where
  text : Bytes
  slots : Slots
  names : List (String × Nat)

/-- The first match in a byte string, if there is one. -/
def Pattern.captures? (p : Pattern) (text : Bytes) : Option Captures :=
  (search p.program (p.subject = .bytes) text).map fun slots => ⟨text, slots, p.program.names⟩

/-- Whether a pattern matches somewhere in a byte string. -/
def Pattern.isMatch (p : Pattern) (text : Bytes) : Bool :=
  (search p.program (p.subject = .bytes) text).isSome

/-- The bytes that a group matched, or none if it took no part. -/
def Captures.group (c : Captures) (index : Nat) : Bytes :=
  match c.slots.lookup (2 * index), c.slots.lookup (2 * index + 1) with
  | some start, some stop => (c.text.drop start).take (stop - start)
  | _, _ => []

/-- The bytes that the group with a name matched, or none if there is no such group. -/
def Captures.named (c : Captures) (name : String) : Bytes :=
  match c.names.lookup name with
  | some index => c.group index
  | none => []

end PxeLaunch.Regex

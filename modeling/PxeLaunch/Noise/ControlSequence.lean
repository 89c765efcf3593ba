import PxeLaunch.Bytes

/-!
Control sequences of a terminal. A sequence is an escape, a bracket, parameters, intermediates and
one final byte, each from a range of its own, so that a sequence is found without looking back. What
is left of a line without its sequences is what a reader of the console sees.
-/

set_option autoImplicit false

namespace PxeLaunch.ControlSequence

def bracket : UInt8 := 0x5B

def isParameter (b : UInt8) : Bool := 0x30 ≤ b && b ≤ 0x3F

def isIntermediate (b : UInt8) : Bool := 0x20 ≤ b && b ≤ 0x2F

def isFinal (b : UInt8) : Bool := 0x40 ≤ b && b ≤ 0x7E

/-- The length of parameters, intermediates and the final byte, or zero if there is no final byte.
-/
def bodyLength (bytes : Bytes) : Nat :=
  let parameters := bytes.takeWhile isParameter
  let afterParameters := bytes.drop parameters.length
  let intermediates := afterParameters.takeWhile isIntermediate
  match afterParameters.drop intermediates.length with
  | b :: _ => if isFinal b then parameters.length + intermediates.length + 1 else 0
  | [] => 0

/-- The length of the sequence at the front, or zero if there is none. -/
def lengthAt : Bytes → Nat
  | a :: b :: rest =>
    if a = Bytes.escape && b = bracket then
      match bodyLength rest with
      | 0 => 0
      | n + 1 => n + 3
    else 0
  | _ => 0

/-- Leaves out sequences from the front on; `skip` bytes belong to the sequence found last. -/
def stripFrom (kept : Bytes) : (skip : Nat) → Bytes → Bytes
  | _, [] => kept.reverse
  | skip + 1, _ :: rest => stripFrom kept skip rest
  | 0, b :: rest =>
    match lengthAt (b :: rest) with
    | 0 => stripFrom (b :: kept) 0 rest
    | n + 1 => stripFrom kept n rest

/-- The bytes without their control sequences. -/
def strip (bytes : Bytes) : Bytes := stripFrom [] 0 bytes

end PxeLaunch.ControlSequence

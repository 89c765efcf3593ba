import PxeLaunch.Bytes

/-!
Reading bytes as UTF-8. The bytes are cut into units: a unit is one character, or a longest run of
bytes that begin a character and do not finish it. Strict reading accepts only characters; lossy
reading writes U+FFFD for each unfinished unit.
-/

set_option autoImplicit false

namespace PxeLaunch.Utf8

/-- One step of reading: a character and the number of its bytes, or the length of a faulty run. -/
inductive Unit where
  | char (c : Char) (size : Nat)
  | faulty (size : Nat)
  deriving Repr, DecidableEq

/-- The number of bytes that a unit takes. -/
def Unit.size : Unit → Nat
  | .char _ n => n
  | .faulty n => n

/-- Bytes from the second of a character on lie between 80 and BF. -/
def isContinuation (b : UInt8) : Bool := 0x80 ≤ b && b ≤ 0xBF

/-- The second byte is limited further after four of the lead bytes, which keeps out overlong
forms, surrogates and values past the last code point. -/
def isSecond (lead b : UInt8) : Bool :=
  if lead = 0xE0 then 0xA0 ≤ b && b ≤ 0xBF
  else if lead = 0xED then 0x80 ≤ b && b ≤ 0x9F
  else if lead = 0xF0 then 0x90 ≤ b && b ≤ 0xBF
  else if lead = 0xF4 then 0x80 ≤ b && b ≤ 0x8F
  else isContinuation b

/-- The six payload bits of a continuation byte. -/
def payload (b : UInt8) : Nat := b.toNat % 64

/-- The unit at the front of `lead :: rest`. -/
def unitAt (lead : UInt8) (rest : Bytes) : Unit :=
  if lead < 0x80 then .char (Char.ofNat lead.toNat) 1
  else if lead < 0xC2 then .faulty 1
  else if lead < 0xE0 then
    match rest with
    | b :: _ =>
      if isContinuation b then .char (Char.ofNat (lead.toNat % 32 * 64 + payload b)) 2
      else .faulty 1
    | [] => .faulty 1
  else if lead < 0xF0 then
    match rest with
    | b :: c :: _ =>
      if isSecond lead b then
        if isContinuation c then
          .char (Char.ofNat ((lead.toNat % 16 * 64 + payload b) * 64 + payload c)) 3
        else .faulty 2
      else .faulty 1
    | [b] => if isSecond lead b then .faulty 2 else .faulty 1
    | [] => .faulty 1
  else if lead < 0xF5 then
    match rest with
    | b :: c :: d :: _ =>
      if isSecond lead b then
        if isContinuation c then
          if isContinuation d then
            .char (Char.ofNat
              (((lead.toNat % 8 * 64 + payload b) * 64 + payload c) * 64 + payload d)) 4
          else .faulty 3
        else .faulty 2
      else .faulty 1
    | [b, c] =>
      if isSecond lead b then if isContinuation c then .faulty 3 else .faulty 2 else .faulty 1
    | [b] => if isSecond lead b then .faulty 2 else .faulty 1
    | [] => .faulty 1
  else .faulty 1

/-- The character at the front of the bytes, with its length. -/
def first? : Bytes → Option (Char × Nat)
  | [] => none
  | lead :: rest =>
    match unitAt lead rest with
    | .char c n => some (c, n)
    | .faulty _ => none

/-- Cuts bytes into units; `skip` bytes still belong to the unit found last. -/
def unitsFrom (found : List Unit) : (skip : Nat) → Bytes → List Unit
  | _, [] => found.reverse
  | skip + 1, _ :: rest => unitsFrom found skip rest
  | 0, lead :: rest =>
    let u := unitAt lead rest
    unitsFrom (u :: found) (u.size - 1) rest

/-- The units of a byte string, in order. -/
def units (bytes : Bytes) : List Unit := unitsFrom [] 0 bytes

/-- The characters of a byte string that is UTF-8 throughout. -/
def chars? (bytes : Bytes) : Option (List Char) :=
  (units bytes).mapM fun
    | .char c _ => some c
    | .faulty _ => none

/-- The text that a byte string holds, if it is UTF-8 throughout. -/
def decode? (bytes : Bytes) : Option String := (chars? bytes).map String.ofList

/-- The text of a byte string with U+FFFD for each faulty run. -/
def decodeLossy (bytes : Bytes) : String :=
  String.ofList ((units bytes).map fun
    | .char c _ => c
    | .faulty _ => '\uFFFD')

end PxeLaunch.Utf8

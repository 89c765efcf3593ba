import PxeLaunch.Unicode.Ranges

/-!
The UTF-8 forms of a range of code points. A range is cut into blocks whose forms are exactly the
byte strings with each byte in a range of its own; the blocks follow one another in ascending order.
-/

set_option autoImplicit false

namespace PxeLaunch.Unicode

/-- A range for each byte of a form, the first byte first. -/
abbrev ByteSequence := List Range

namespace ByteSequence

/-- The part of a range that lies between two bounds. -/
def clip (lo hi : Nat) (r : Range) : List Range :=
  if max lo r.lo ≤ min hi r.hi then [⟨max lo r.lo, min hi r.hi⟩] else []

/-- The parts of a range past ASCII whose code points have forms of one length. Surrogates have no
form. -/
def pastAscii (r : Range) : List Range :=
  clip 0x80 0x7FF r ++ clip 0x800 0xD7FF r ++ clip 0xE000 0xFFFF r ++ clip 0x10000 0x10FFFF r

/-- Cuts a range where a whole number of blocks begins and where it ends. -/
def align (block : Nat) (r : Range) : List Range :=
  if r.lo / block = r.hi / block then [r]
  else
    let start := (r.lo + block - 1) / block * block
    let stop := (r.hi + 1) / block * block
    (if r.lo < start then [⟨r.lo, start - 1⟩] else []) ++
      (if start < stop then [⟨start, stop - 1⟩] else []) ++
      (if stop ≤ r.hi then [⟨stop, r.hi⟩] else [])

/-- The bytes of a code point's form. -/
def bytesOf (n : Nat) : List Nat :=
  if n < 0x80 then [n]
  else if n < 0x800 then [0xC0 + n / 64, 0x80 + n % 64]
  else if n < 0x10000 then [0xE0 + n / 4096, 0x80 + n / 64 % 64, 0x80 + n % 64]
  else
    [0xF0 + n / 262144, 0x80 + n / 4096 % 64, 0x80 + n / 64 % 64, 0x80 + n % 64]

/-- The forms of a block. -/
def ofBlock (r : Range) : ByteSequence := List.zipWith Range.mk (bytesOf r.lo) (bytesOf r.hi)

/-- The forms of a range, block by block. ASCII is one block. -/
def ofRange (r : Range) : List ByteSequence :=
  let blocks := ((pastAscii r).flatMap (align 64)).flatMap (align 4096)
  (clip 0 0x7F r ++ blocks.flatMap (align 262144)).map ofBlock

/-- The forms of all members of a set. -/
def ofSet (s : RangeSet) : List ByteSequence := s.flatMap ofRange

end ByteSequence

end PxeLaunch.Unicode

/-!
Sets of code points, or of octets, as sorted lists of ranges that neither overlap nor touch.
-/

set_option autoImplicit false

namespace PxeLaunch.Unicode

/-- All numbers from `lo` to `hi`, both included. -/
structure Range where
  lo : Nat
  hi : Nat
  deriving Repr, DecidableEq

/-- A set of numbers, as its ranges in ascending order. -/
abbrev RangeSet := List Range

namespace RangeSet

/-- Membership of a number. -/
def contains (s : RangeSet) (n : Nat) : Bool := s.any fun r => r.lo ≤ n && n ≤ r.hi

/-- Adds a range, joining it with the ranges that it overlaps or touches. -/
def insert : Range → RangeSet → RangeSet
  | r, [] => [r]
  | r, s :: rest =>
    if r.hi + 1 < s.lo then r :: s :: rest
    else if s.hi + 1 < r.lo then s :: insert r rest
    else insert ⟨min r.lo s.lo, max r.hi s.hi⟩ rest

/-- The set of the numbers in any of the ranges. -/
def ofRanges (rs : List Range) : RangeSet := rs.foldl (fun s r => insert r s) []

/-- The set with one member. -/
def single (n : Nat) : RangeSet := [⟨n, n⟩]

def union (s t : RangeSet) : RangeSet := t.foldl (fun u r => insert r u) s

def inter (s t : RangeSet) : RangeSet :=
  s.flatMap fun r => t.filterMap fun q =>
    let lo := max r.lo q.lo
    let hi := min r.hi q.hi
    if lo ≤ hi then some ⟨lo, hi⟩ else none

/-- The numbers from `start` to `last` that the set does not hold. -/
def gaps (start last : Nat) : RangeSet → RangeSet
  | [] => if start ≤ last then [⟨start, last⟩] else []
  | r :: rest =>
    if start < r.lo then ⟨start, r.lo - 1⟩ :: gaps (r.hi + 1) last rest
    else gaps (r.hi + 1) last rest

/-- Every code point that is not a surrogate. -/
def scalars : RangeSet := [⟨0, 0xD7FF⟩, ⟨0xE000, 0x10FFFF⟩]

/-- Every octet. -/
def octets : RangeSet := [⟨0, 0xFF⟩]

/-- The members of `whole` that the set does not hold. -/
def complement (whole s : RangeSet) : RangeSet := inter whole (gaps 0 0x10FFFF s)

def difference (s t : RangeSet) : RangeSet := inter s (gaps 0 0x10FFFF t)

def symmetricDifference (s t : RangeSet) : RangeSet := union (difference s t) (difference t s)

/-- Whether the set holds ASCII alone. -/
def isAscii (s : RangeSet) : Bool := s.all fun r => r.hi < 0x80

end RangeSet

end PxeLaunch.Unicode

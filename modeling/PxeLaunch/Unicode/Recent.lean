import PxeLaunch.Unicode.Table

/-!
Code points that version 17 of the standard assigned. The properties and categories of this folder
are those of version 16, which is the one that expressions are read by; texts in messages and the
names of groups go by version 17.
-/

set_option autoImplicit false

namespace PxeLaunch.Unicode.Recent

def alphabeticTable : String :=
    "1ov 0 r0 0 3j 0 ult 1 2 0 1 0 s 0 j7y p 12j 2 1e 1 2g4 7 g8 17 fyc o 2 o 7y 4 4qp 7 zt
    l 2p 36 hjh u 1 l 8 1 154q 5 4ma b gsi 3bd"

/-- The letters among them, with all that is used like a letter. -/
def alphabetic : RangeSet := Table.ranges alphabeticTable

def numberTable : String :=
    "1kgw 9 g7e 2"

/-- The numbers among them. -/
def number : RangeSet := Table.ranges numberTable

def visibleTable : String :=
    "1ov 0 r0 0 3j 0 3xg 0 250 0 ojb 1 2 0 1 0 s 0 gk1 f cd 1 1i 6 29d p 12j 2 8 8 2h4 0 3 0
    1 0 g8 17 4 9 fxy o 2 o 7y 4 4qp 7 zt l 2p 36 cg7 2 cd m f g 4pb u 1 2 1 1 1 6 2 4 9 1
    34o 0 4e 3 9h 8 aj 3 1e 0 3 0 1l 0 4 0 s 0 4 0 7e 0 10zj 5 4ma b gsi 3bd"

/-- Those that can be seen and do not attach themselves to the character before them. -/
def visible : RangeSet := Table.ranges visibleTable

end PxeLaunch.Unicode.Recent

import PxeLaunch.Unicode.Table

/-!
The part that a code point plays where a text is divided into words, by the name of the part.
-/

set_option autoImplicit false

namespace PxeLaunch.Unicode.WordBreak

def aLetterTable : String :=
    "1t p 6 p 1b 0 a 0 4 0 5 m 1 u 1 db 6 x 34 4 1 1 2 3 1 0 6 0 1 2 1 0 1 j 1 2a 1 3u 8 4l
    1 11 2 3 1 0 1 14 1 0 2w 0 18 16 z 1 1 2q 1 0 f 1 7 1 a 2 2 0 f 1 1 t t 2g b 0 o w 9 1
    4 0 5 l 4 0 9 0 3 0 n o 7 a 5 n 1 5 h 15 1m 1h 3 0 i 0 7 9 f f 4 7 2 1 2 l 1 6 1 0 3 3
    3 0 g 0 d 1 1 2 e 1 a 0 8 5 4 1 2 l 1 6 1 1 1 1 1 1 v 3 1 0 j 2 g 8 1 2 1 l 1 6 1 1 1 4
    3 0 i 0 f 1 n 0 b 7 2 1 2 l 1 6 1 1 1 4 3 0 u 1 1 2 f 0 h 0 1 5 3 2 1 3 3 1 1 0 1 1 3 1
    3 2 3 b m 0 1g 7 1 2 1 m 1 f 3 0 q 2 2 0 2 1 u 0 4 7 1 2 1 m 1 9 1 4 3 0 v 1 1 1 f 1 h
    8 1 2 1 14 2 0 g 0 5 2 8 2 o 5 5 h 3 n 1 8 1 0 2 6 8p 0 1r 7 1 z r 4 7n 11 1 0 5 0 2 16
    1 98 1 3 2 6 1 0 1 3 2 14 1 3 2 w 1 3 2 6 1 0 1 3 2 e 1 1k 1 3 2 1u 11 f g 2d 2 5 3 h7
    2 g 1 p 5 22 3 a 7 h d i e h e c 1 2 4v 2g 7 4 2 x 1 0 5 1x a u 69 m 6m 1a h 7 1i t d 1
    a 17 q z 15 2 a z 2 a 5 16 2 2 15 3 1 5 1 1 3 0 5 5b 1s 7p 2 5 2 11 2 5 2 7 1 0 1 0 1 0
    1 u 2 1g 1 6 1 0 3 2 1 6 3 3 2 5 4 c 5 2 1 6 38 0 d 0 g c 2t 0 4 0 2 9 1 0 3 4 6 0 1 0
    1 0 1 3 1 a 2 3 5 4 4 0 h 14 ml 1f 1ee 6c 6 3 3 1 c 11 1 0 5 0 2 1j 7 0 g m 9 6 1 6 1 6
    1 6 1 6 1 6 1 6 1 6 28 0 d1 0 1h 1 5k 16 1 2l h v ls0 wc 1v 19 2 7g 3 f a 1 k 1a g u 2
    27 o 5h 2 1 1 0 1 7 l f 1 2 1 3 1 m t 1f e 1d 1q 5 3 0 1 1 b r a m p s 7 1a s 0 1c 14 n
    2 1 7 44 a 7 2 c 5 2 5 2 5 9 6 1 6 1 1l 6 36 t 8mb c m 4 1c 6x0 6 c 4 1k 2p x a2 i 1r 2
    1h 14 b 38 4 1 3q 10 p 6 p 1x u 3 5 2 5 2 5 2 2 z b 1 p 1 i 1 1 1 e 2 d y 3e 1x 1g 7f s
    3 1c 1b v d t 5 11 a t 2 z 4 7 1 4 16 4d i z 4 z 4 13 8 1f c a 1 e 1 6 1 1 1 a 1 e 1 6
    1 1 3 1f c 8m 9 l a 7 o 5 1 15 1 8 1x 5 2 0 1 17 1 1 3 0 2 m a m 9 u 1t i 1 1 a l a p
    1y 1j 6 1 1s 0 f 3 1 2 1 s 16 s 3 s z 7 1 r r 1h a l a i d h 32 20 1j 1e d 1e d z 12 r
    9 m 6y 15 6 1 g 2 1n s a 0 8 l 16 h 1a k r m c 1g 1l 1 2 0 d 18 w o q z t 0 2 0 8 y 3 0
    c 1b e 3 l 0 1 0 z h 1 o j 1 1r 6 1 0 1 3 1 e 1 9 7 1a 12 7 2 1 2 l 1 6 1 1 1 4 3 0 i 0
    c 4 u 9 1 0 2 0 1 11 1 0 p 0 1 0 18 1g i 3 k 2 u 1b k 1 1 0 54 1a 15 3 10 1b k 0 1n 16
    d 0 93 17 38 1r v 7 2 0 2 7 1 1 1 n f 0 1 0 2m 7 2 12 g 0 1 0 s 0 a 13 7 0 l 0 b 19 j 0
    i 20 5j w v 8 1 10 h 0 1d t 34 6 1 1 1 11 l 0 p 5 1 1 1 v e 0 93 i f 0 1 c 1 x 3g 0 27
    pl 2u 32 h 5f 218 2o f tr h 5 p 32y 5 g6 5a1 t 1cy fs 7 u h 26 h t i 1b g 3 v k 5 i c0
    18 5v 1r 3k 22 5 0 1u c 1s 1 1 0 f18 2y 5 c 3 8 7 9 4me 2c 1 1y 1 1 2 0 2 1 2 3 1 b 1 0
    1 6 1 1s 1 3 2 7 1 6 1 r 1 3 1 4 1 0 3 6 1 9f 2 o 1 o 1 u 1 o 1 u 1 o 1 u 1 o 1 u 1 o 1
    7 1f8 u 6 5 79 1p 42 18 a 6 g 0 8x t i 17 dg r 6c t 2 0 dr 6 1 3 1 1 1 e 1 5g 1n 1v 7 0
    xg 3 1 q 1 1 1 0 2 0 1 9 1 3 1 0 1 0 6 0 4 0 1 0 1 0 1 2 1 1 1 0 2 0 1 0 1 0 1 0 1 0 1
    1 1 0 2 3 1 6 1 3 1 3 1 0 1 9 1 g 5 2 1 4 1 g hg p 6 p 6 p"

def crTable : String :=
    "d 0"

def doubleQuoteTable : String :=
    "y 0"

def extendTable : String :=
    "lc 33 7n 6 7b 18 1 0 1 1 1 1 1 0 20 a 1c k g 0 2t 6 2 5 2 1 1 3 z 0 u q 2j a 1m 8 9 0 o
    3 1 8 1 2 1 4 17 2 1n 8 16 n 1 w 1i 2 1 h 1 6 a 1 t 2 1k 0 1 6 2 1 2 2 9 0 a 1 q 0 2 2
    1k 0 1 4 4 1 2 2 3 0 u 1 3 0 b 2 1k 0 1 7 1 2 1 2 k 1 m 5 1 2 1k 0 1 6 2 1 2 2 7 2 a 1
    u 0 1n 4 3 2 1 3 9 0 14 4 1j 0 1 6 1 2 1 3 7 1 b 1 t 2 1k 0 1 6 1 2 1 3 7 1 b 1 f 0 c 3
    1j 1 1 6 1 2 1 3 9 0 a 1 t 2 1y 0 4 5 1 0 1 7 i 1 1p 0 2 6 c 7 2q 0 2 8 b 6 21 1 r 0 1
    0 1 0 4 1 1d j 1 1 5 a 1 z 9 0 2s j n 3 4 2 1 2 2 6 3 3 d b 1 0 a 3 jj 2 qa 3 s 2 t 1 u
    1 1s v 9 0 19 2 1 0 39 1 y 0 3a b 4 b 63 4 1l 9 1 s 2 0 1c u 1d 4 1b g 12 8 c 2 u c 1k
    d 1c j 48 2 1 k 4 0 6 0 2 2 5i 1r ek 0 5f w 2da 2 3x 0 2o v fe 5 2x 1 n9w 3 1 9 w 1 28
    1 7k 0 3 0 4 0 n 4 4 0 2b 1 1e h q h d 0 12 7 p c 18 3 1b d 10 0 1v d c 0 8 1 19 2 1e 0
    1 2 2 1 5 1 1 0 15 4 5 1 6k 7 1 1 fn4 0 kh f g f a6 1 gt 0 6a 0 45 4 1ae 2 1 1 5 3 14 2
    4 0 4l 1 fx 3 1t 4 8t 1 27 3 1y a 1d 3 3e 2 1h e 15 0 2 1 a 3 19 a 7 0 1p 2 10 d g 1 18
    0 c 2 1c d 8 3 1 1 2k b 6 0 2 0 4d b l 3 1j 1 1 6 2 1 2 2 9 0 a 1 2 6 3 4 1v 8 1 0 2 0
    1 3 1 4 1 0 e 1 2a h n 0 29 j 6j 6 2 8 r 1 2a g 2y c 2t e 74 e 6t 5 1 1 2 3 1 0 1 1 3x
    6 2 6 3 0 s 9 14 6 1 3 8 0 9 a 1a f b9 7 1 7 2a l 1 d 3e 5 3 0 1 1 1 6 1 0 1u 4 1 1 1 4
    9n 3 9 1 1 0 1c 6 3 4 n 0 44l 0 6 e 8ug h 1xc 4 1n 6 t4 0 1 1i 7 3 29 0 b 1 f57 1 3mp
    19 2 m f2 4 3 5 8 7 2 6 u 3 44 2 1iz 1i 4 1d 8 0 e 0 m 4 1 e 11s 6 1 g 2 6 1 1 1 4 2s 0
    4g 6 af 0 1p 3 e4 3 72 1 kg 6 31 6 240 4 gx7k 2n 3k 6n"

def extendNumLetTable : String :=
    "2n 0 6a7 0 f 1 j 0 17tq 1 o 2 6n 0"

def formatTable : String :=
    "4t 0 12m 0 3jl 0 1kv 1 q 4 1d 4 1 9 17yn 0 6x 2 ab8 f qxs 3 43z 7 h406 0"

def hebrewLetterTable : String :=
    "15c q 4 3 1cfe 0 1 9 1 c 1 4 1 0 1 1 1 1 1 9"

def katakanaTable : String :=
    "9ip 4 2t 1 3 2i 1 3 6o f 5s 1a 1 2f 14b2 1j ytu 3 1 6 1 1 1 0 7z 2 1e 0 e 3"

def lfTable : String :=
    "a 0"

def midLetterTable : String :=
    "1m 0 3g 0 jz 0 d3 0 44 0 56a 0 17u3 0 1t 0 5g 0"

def midNumTable : String :=
    "18 0 e 0 n6 0 ei 0 3m 1 2m 0 az 0 4sr 0 17uz 0 3 0 53 0 e 0"

def midNumLetTable : String :=
    "1a 0 6ax 1 a 0 17vx 0 50 0 6 0"

def newlineTable : String :=
    "b 1 3c 0 68y 1"

def numericTable : String :=
    "1c 9 152 5 2i 9 1 0 35 0 i 9 5i 9 5i 1 28 0 3n 9 3a 9 3a 9 3a 9 3a 9 3a 9 3a 9 3a 9 3a
    9 3a 9 2o 9 3a 9 1y 9 7q 9 1y 9 1fq 9 12 9 8c 9 3k a 4l 9 6 9 52 9 2e 9 3q 9 6 9 r7q 9
    iu 9 12 9 5i 9 m 9 2e 9 ba 9 geu 9 13a 9 1om 9 6 9 m4 9 25 0 f 0 y 9 1o 9 40 9 7q 9 9i
    9 3a 9 ae 9 2u 9 6 j 24 9 bq 9 2u 9 ie 9 2e 9 6u 9 1y 9 bq 9 d06 9 1t2 9 2e 9 3q 9 eu 9
    iuu 9 250 1d 1ts 9 bq 9 dy 9 6v 9 np 9 3o6 9"

def regionalIndicatorTable : String :=
    "2qcm p"

def singleQuoteTable : String :=
    "13 0"

def wSegSpaceTable : String :=
    "w 0 4f3 0 1vj 6 1 2 2c 0 334 0"

def zwjTable : String :=
    "6bx 0"

/-- The table of the set with a name. -/
def table? (name : String) : Option String :=
  match name with
  | "aletter" | "le" => some aLetterTable
  | "cr" => some crTable
  | "doublequote" | "dq" => some doubleQuoteTable
  | "extend" => some extendTable
  | "ex" | "extendnumlet" => some extendNumLetTable
  | "fo" | "format" => some formatTable
  | "hebrewletter" | "hl" => some hebrewLetterTable
  | "ka" | "katakana" => some katakanaTable
  | "lf" => some lfTable
  | "midletter" | "ml" => some midLetterTable
  | "midnum" | "mn" => some midNumTable
  | "mb" | "midnumlet" => some midNumLetTable
  | "newline" | "nl" => some newlineTable
  | "nu" | "numeric" => some numericTable
  | "regionalindicator" | "ri" => some regionalIndicatorTable
  | "singlequote" | "sq" => some singleQuoteTable
  | "wsegspace" => some wSegSpaceTable
  | "zwj" => some zwjTable
  | _ => none

/-- The code points of the set with a name. -/
def named? (name : String) : Option RangeSet := (table? name).map Table.ranges

end PxeLaunch.Unicode.WordBreak

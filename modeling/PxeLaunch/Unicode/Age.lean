import PxeLaunch.Unicode.Table

/-!
The version of the standard that first assigned each code point. The age of a text is that of its
youngest code point, so a version stands for its own code points and those of every version before
it.
-/

set_option autoImplicit false

namespace PxeLaunch.Unicode.Age

def v11Table : String :=
    "0 dx 4 t 1k 2g 7 1a 1 9 m 1x q 1 i 1 4 0 3 0 5 6 1 0 1 j 1 17 1 6 3 0 1 0 1 0 1 0 1 h d
    b 1 1t 1 b 1 14 9 1g 2 1 2 1 3 r 2 7 2 1 1j 11 2 6 1 12 1 0 12 9 1 8 c q 5 4 n 0 e 0 3
    0 1 p 5 i d d 2 1z 2 4 1 e 1 t 2 9 ef 2 1 1g 2 h 2 4 3 o g 2 1 7 2 1 2 l 1 6 1 0 3 3 2
    0 1 6 2 1 2 2 9 0 4 1 1 4 2 k 7 0 2 5 4 1 2 l 1 6 1 1 1 1 1 1 2 0 1 4 4 1 2 2 b 3 1 0 7
    e c 2 1 6 1 0 1 2 1 l 1 6 1 1 1 4 2 9 1 2 1 2 2 0 f 0 5 9 h 2 1 7 2 1 2 l 1 6 1 1 2 3 2
    7 3 1 2 2 8 1 4 1 1 2 4 a h 1 1 5 3 2 1 3 3 1 1 0 1 1 3 1 3 2 3 7 1 2 4 4 3 2 1 3 9 0 f
    b e 2 1 7 1 2 1 m 1 9 1 4 4 6 1 2 1 3 7 1 9 1 4 9 i 1 1 7 1 2 1 m 1 9 1 4 4 6 1 2 1 3 7
    1 7 0 1 1 4 9 i 1 1 7 1 2 1 m 1 f 4 5 2 2 1 3 9 0 8 1 4 9 41 1l 4 s 11 1 1 0 2 1 1 0 2
    0 6 3 1 6 1 2 1 0 1 0 2 1 1 c 1 2 2 4 1 0 1 5 2 9 2 1 ci 11 a 12 4 0 4 2h 5 1v 5 29 2di
    4a 5 2h 6 l 2 5 2 11 2 5 2 7 1 0 1 0 1 0 1 u 2 1g 1 e 1 d 2 5 1 i 2 2 1 8 1 1a 1 m z 6
    3 q h a 11 h u 1k q 1b d 2i l 6p e 0 1 3c 3p 10 r a l 3u l 45 a 27 g j 6 2d 41 3 1 3 2
    r 1 y 1 0 1 3 3 0 1 6 2 6 e u 3 n 1 d 1mp 1j 7 0 1 2b 4 5 2 2l 6 13 4 2l 1 f 2o s 3 z s
    r 3 1d f b 4 1a 1 3a 4 2q 2 u 54x g4l cpm 565 5u 6 c 4 6 o 1 4 1 0 1 1 1 1 1 2z x a4 g
    1r 2 1h 14 b 10 3 c k 4 9 1 i 1 3 4 2 1 0 1 3q 2 0 1 2l 2 2l 3 5 2 5 2 5 2 2 3 6 1 6 e
    2"

def v20Table : String :=
    "13l g 1 c k 0 1tn 1z 1 w 7 q 4 5 1 0 1 k 3 6 1 0 2xt 0 en 0 ris 8mb 1mje 1 1eke 1 1eke
    1 1eke 1 1eke 1 1eke 1 1eke 1 1eke 1 1eke 1 1eke 1 1eke 1 1eke 1 1eke 1 1eke 2t4x"

def v21Table : String :=
    "6gc 0 183z 0"

def v30Table : String :=
    "dy 3 u 7 2 h 39 4 1d 0 a 4 2f 8 j 0 38 0 3 0 1 0 1 0 1 0 u 0 c 0 1u 0 c 0 16 1 2 3 2k 1
    4c 0 5k 2 2q 1 5 0 f 0 16 4 1 d 1 t 3 q 1h 1c 15d 1 1 h 3 n 1 8 1 0 2 6 3 0 4 5 1 0 1 7
    i 2 ad 0 17 0 n 2 7 0 1 2 1 e 2 0 1c x 1 4 1 1 1 6 3 3 6 p bq 6 1 1q 1 0 1 3 2 6 1 0 1
    3 2 12 1 0 1 3 2 u 1 0 1 3 2 6 1 0 1 3 2 6 1 6 1 m 1 u 1 0 1 3 2 6 1 12 1 i 6 r z 2c c
    hh 9 s 3 28 3z 2k 3 9 m e 1 9 6 2f 8 15 1hh 0 o 5 2n 2 1e 1 2d 1 20 0 2v 8 7h 0 3d 0 1
    t 3u 1 cp 7 x 0 2e 1 b2 73 134 p 1 2g c 5x q b 1o 2 3 0 9t n g8 52t g96 wc 3 h 2 f 1 b
    1 2 1 0 h1y 0 yj 2"

def v31Table : String :=
    "s4 1 1dcq v 100 u 1 3 c q 51 11 2 11 148i 6t a 12 3 4z f6 2c 1 1y 1 1 2 0 2 1 2 3 1 b 1
    0 1 3 1 1 1 1s 1 3 2 7 1 6 1 r 1 3 1 4 1 0 3 6 1 9d 4 81 4 1d 7wg wye g15 f1 fher 0 u
    2n"

def v32Table : String :=
    "f4 0 8e 0 j c 2w 1 s 0 43 1 1l 1 2 1 2 1 1d f 9q 1 8x 0 1tx 1 16v c 1 6 b m 9 j c c 1 2
    1 1 1qr 0 6 4 4 0 7 4 d 0 1q 1 1e 6 2a e 4o b 6q d 3g 0 u 1f 7w j 47 9 2g 7 m 1 2i b 2
    9 66 d 2i r 4 f 74 e7 117 2 2f 1 8 1 2m 0 6o f 29 e 29 e mhu 1 g 0 c 0 3 0 gve 1m pd 0
    3 f 1h 1 18 0 6j 1"

def v40Table : String :=
    "f5 0 i 2 3b 1 1r g 28 7 5 2 47 4 ec 3 9 8 1s 2 45 1 f 0 19 2 t 2 c4 0 54 0 1v 0 1 0 3s
    0 2c 2 d 0 1v 0 1n 0 3l 7 5d 1 273 0 i 9 7a s 3 b 4 b 4 0 3 15 2 4 2z v lc 2z kn 1 6e 0
    ib 1 8e 0 7o 1 38 7 e 1 v2 d 1e7 1 1d 0 17 1 26 3 4n 3 2r 1 v 0 534 1r yrh 0 21 1 c7 b
    1 p 1 i 1 1 1 e 2 d y 3e 5 2 4 18 3 8 g0 t 1 0 3q 1 12 27 2 9 nq 5 2 0 1 17 1 1 3 0 2 0
    141s 2e a2 0 h3jy 6n"

def v41Table : String :=
    "fr a 7q 4 4f 3 6u 1 4q 0 y 2 1v 0 i 0 1m 5 6p t en 0 28 0 dj 0 1b 0 rt 1 87 1 1 0 7e 0
    1r 0 1r 0 13 0 v 0 v 0 v 0 f 0 13 0 n 1 v p 15y 15 6 p 6 9 4 1 w r 2 1 ng 2f i9 1 1 6
    1d 4 t 3 1h 0 28 0 f 0 hw a fw 0 2t 1 i a 5 f 7i 6 nb 5 6k 1a 1 1a x 2y e 18 a 1h 9 0 g
    m 9 6 1 6 1 6 1 6 1 6 1 6 1 6 1 6 x n 4 1 pu f 4u 0 lk7 l 1fo m 6h 17 g90 2x mu 9 me 22
    et z 4 d 17u 3 1 1 5 7 1 2 1 q 4 2 4 8 8 8 13fr 1x v2 1"

def v50Table : String :=
    "g2 d 8b 2 9d 0 16 5 g 3 4m 0 ed 1m ao 1 1 1 o2 1 d 1 2rx 23 4 18 g7 6 1f 1 ks 3 2l 1 1h
    0 gn b ju 0 7o 3 nd 6 5 3 8s c 7 3 o7z 3 5 1 7y 1j j2g p 5 0 4io oe 41 2q d 3 yjw h uw
    1"

def v51Table : String :=
    "og 3 2 1 2f 0 53 0 3w f 6a 4 b 4 w 4 8e h dt 1 66 0 z 0 5q 0 t 1 30 0 30 0 q 1 8 1 k 7
    59 0 6 0 t 1 c 5 3 6 dn 1 2p 0 3 2 25 0 5 0 2 0 7 2 4 5 q 1r 4 1 1l6 0 k5 16 3 b 1y 1j
    3 e 3 1e 97 r 51 3 2i 5 9w 0 3v 0 2m 0 1h 3 104 0 l 9 3 3 7c 0 v 3 mj 4 4 14 3 4 7s 2 1
    2 4 5 9u v o 3 2 i l8 0 4i j lp4 7 118 8b k v 2 h 8 r 3n 4 2 2y 32 4 3k 1w 9 b 12 2b b
    0 4g 1i 9 d 2 9 2 3 gjo 2 o9 b 1g 19 3m s 3 1c 18v p 5 0 13hl 0 63a 17 4 2r"

def v52Table : String :=
    "10k 1 ka 19 2 e 5d 0 25 0 6 0 z 1 3k 0 15l 3 5d 3 58 4 1w 4 2a 5 e8 0 hi 8 fk 1x 50 1
    1a 0 1x 1q 1 s 2 a 6 9 6 d f6 y 7e 0 jc 2 47 2 1i 0 gu 0 j9 1 t 2 4 9 1 i 1 0 4 n 2f 0
    sd 4 7q 0 d 1 2z 6 8v 0 sy b lmc 7 zo 1b bk 2f 8o 9 4m r 2s s 3 25 1 a 4 1 3k r 4 1u o
    4 68 19 2 9 8mu m 4 1c 6sv 2 2qa l 1 8 56 1 90 v 3k 1h 3 s 2 q 5 7 3k 20 ev u e9 1t 666
    tq 11ap a 5 u 2 0 b 0 1 0 2 0 3 0 3 4 8 0 7 0 p 0 1 1 2 0 a 3 2 0 33 0 f x e 8 zp3 378"

def v60Table : String :=
    "10m 1 6w 0 1q 0 dc r 2 0 63 1 j 0 6 1 r 4 e2 5 c1 0 g 0 j 0 fx 3 21 1 oy 1 1nl 1f 8 3
    e4 0 ig 7 s 0 mn a ka 0 j 0 1 3 t 0 4 1 s 0 z 0 1 0 4 2 9 1 1g 2 o 0 e 0 e 1 140 0 e 0
    u0 2 n1h 1 8b 1 1 1 e 9 28 0 li 5 2 5 2 5 9 6 1 6 fwj f 3zy 25 4 t hao fs ds7 1 cri e 2
    d 2 e 1 e 28 0 1 a 1 0 1 1 1 2 1 2 5 7 1 6 1 9 6 8 1 0 2 1 1 9 4 1 1 9 23 p 1 1 1b 8 l
    1 4u w f 5 1 1x 3 j c 10 1 4 l g f 1q 1 0 1 51 1 3 3 1p i n 43 4 1 f 1 2 1 0 1 0 1 0 1
    2 1 5 2 3 1 0 2 3 1 b 4 a 1c 1x 1m 37 11vw 65"

def v61Table : String :=
    "13j 0 38 0 ij 0 1 a 1j q dt 0 rx 1 dj 0 5 0 1b 2 23v 2 c 5 74 7 17 3 250 0 1 0 10k 1 1f
    0 5 0 1k 1 5m 9 mfk 0 1bb 7 z 0 6q 1 m 0 25 1 km m fnb 1 30w 1j 6 1 1e8 o 7 9 6 1g 1 d
    1o 20 7 9 x2 1j 8 9 hfa 1w b 1a g g oyo 3 1 q 1 1 1 0 2 0 1 9 1 3 1 0 1 0 6 0 4 0 1 0 1
    0 1 2 1 1 1 0 2 0 1 0 1 0 1 0 1 0 1 1 1 0 2 3 1 6 1 3 1 3 1 0 1 9 1 g 5 2 1 4 1 g 1g 1
    hk 1 r8 3 58 0 g 0 3 0 1 0 1 0 1 0 3 0 6 1 4 0 1 1 4 0"

def v62Table : String :=
    "6gq 0"

def v63Table : String :=
    "17g 0 56x 3"

def v70Table : String :=
    "ov 0 bs 7 2l 1 3a 0 ij 0 b 5 24 0 3c 0 7 0 hr 0 1f 0 24 0 3j 0 6c 9 1s1 7 f8 1 b5 e ft
    1 6l e jp 2 mu 6 lh 0 uk 2 a p 2 v 2 x 3 b 1 7 h6 6 nrp 5 6u b b 2 2 1 1x 0 dk u 3h 3
    4w 1b 4 1 gch 6 nx 1 j 0 8v r z 0 1c 16 at 13 8 1f b 0 40 8m 9 l a 7 6w 1q 8 8 cw v w
    12 4 b 3t h 7 3 c 6 y7 0 5s 12 2e 0 c 0 6 j b h 1 16 36 1m 5 9 7 2 1 7 2 1 2 l 1 6 1 1
    1 4 2 8 2 1 2 2 9 0 5 6 2 6 3 4 7f 1z 8 9 4m 1h 2 h 1i 1w b 9 g6 2a c 0 cg 1k 1o6 15 5m
    b 5 0 dsb u 1 9 4 1 2o t 2 5 a 1x a 9 1 6 1 k 5 i fw0 2y 5 c 3 8 7 9 2 7 8kc 5g 2 f 1k8
    0 w l l 1 es b 9 0 1y 0 m b 11 0 5 3 5 b h 6 1z 0 1 0 52 0 4 1 1r 1 4 6 t h 1 14 1 2d
    1y 1 d 1b 1y 9 g c 3 3 3w 2c 17 b 4 1j 8 9 6 13 8 t"

def v80Table : String :=
    "1pv 1 1a 0 et 0 9s 0 78 0 1at 0 2 5 2io 0 5n 1 21s 3 mvx 8 1c8 0 6o 0 y 5 90 1 gy 3 c
    27 ga6 1 240 i 1 1 5 4 58 1 2 f 2 19 hs 1e d 1e 7 5 y1 3 e 4 4g 6 1 0 1 3 1 e 1 a 2e 0
    27 0 hl j 82 p 3 e 4 f 2ft 0 6e 5f 62k g6 rkn a 17b i3 f 4 1 e 4u5 2 26 1 27 4 10 7 73
    0 23 4 6r 1 3v 0 fz 8 2v 4 1n 0 11lr 4g1"

def v90Table : String :=
    "1py 7 m e pp 0 5q 0 4 2 1 6 n 2 2yv 8 aa 0 16n 3 210 1 nzd 0 7q 0 hjb 1 m9 z 4 z 2ma 0
    ch 2h 1 0 1 0 ea c 13n 8 1 18 1 d a s 3 v 2 l 1 d gfd 0 v 4q4 j ky gst 6 1 g 2 6 1 1 1
    4 1qt 22 5 9 4 1 1mj h 3y 0 n2 0 15 0 8c 1 x 2 f6 5 1 7 8 0 2 b 1 b 4 e 12 c"

def v100Table : String :=
    "1nk a b5 1 70 5 e8 0 1m 1 33u 0 72 3 jp 0 n3 0 1jm 0 he 4 kk 0 luv k jlu 2 4i8 1z 8 1f
    2 m 1 4 gt 6 1 1 1 17 3 0 1 1 1 8 8 9 gav 0 co0 7w 29 az cis 5 vh 1 y 1 ef b j 0 8 7 1
    1 p 0 i c 12 5 1k m 1615 5rk"

def v110Table : String :=
    "128 0 13 0 2u 0 el 2 5v 0 8a 0 3b 0 b1 0 3j 0 2cz 0 t3 16 2 2 2yi 2 m o 4 e gb 4 kg 0
    lvf 4 1j3 0 8 1 90 1 j78 1 i 0 jb 13 8 9 cm 13 8 15 ab 0 3a 2 dw 0 82 0 jf 0 6d 1n gx 0
    jm 5 1 1 1 10 1 1 1 5 7 9 8m o fnr 2i 502 4 esu j 3i 6 4xk 1v vu 0 155 0 63 3 ac 2 s 4
    2 3 3 0 1 3 o a d 9 7 1 10 o 2o d"

def v120Table : String :=
    "2gn 0 em 0 2 0 2 0 1 5 4 0 7 0 7 1 2 0 d 0 2tb 0 2xa 0 1h 0 gf 0 nze 5 2 4 pr 1 jug m
    vc 0 go 0 kn 7 2 19 2 a 4f 1 116 1d d 0 3zk 8 bnw 5 4 0 1b 8 2i 1 4r2 5 860 2 h 3 9eg
    18 3 d 2 9 4 1 a8 1l 5 0 18r 0 qd 1o tq 0 12g 0 10 0 6d b 81 2 1b 0 1d 0 9 0 15 5 3 1 a
    5 3 7 2 2 1c 2b s 3 4 2 5 2 d 5"

def v121Table : String :=
    "a2n 0"

def v130Table : String :=
    "1q6 9 i5 0 by 0 3g 0 2m5 1 3bq 0 jc 2 o8 4 5iu 9 g8g c 1je 3 16 1 1h 0 mz 3 h0w 0 2jn
    15 1 2 2 1 72 r aj 0 3q 1 i2 0 5 1 wu 6 2 0 2 7 1 1 1 t 1 1 2 b 9 9 192 0 fub 0 b 1 5c1
    de 16 8 jr8 2 2l 2 1p 0 10o 1 z 1 c3 1 2i 0 2t 0 4 1 16 1 6 2 t 0 4o 0 e 3 f i 7 6 9 2
    d 6 15 42 1 1i 11 9 xr1 6 hlu 3t6"

def v140Table : String :=
    "17h 0 gi u 1 1 6 7 l 0 i a o9 0 w 0 3j 0 20f 0 7 0 9 0 6n 0 j5 d 3h 0 1c 1 hn 0 jp 0
    29a 0 1b 0 dv a mfz 2 1j4 1 e 1 1 0 1 4 o 2 gjx 0 al f 3j 0 1a 1 1gw a 1 e 1 6 1 1 1 a
    1 e 1 6 1 1 cj 5 1 15 1 8 1it p 6e 5 24 0 16e 0 3q 6 o9 f 440 2q bjx 26 1 9 dnq 3 1 6 1
    1 80 3 5wd 19 2 m 9 37 f9 1 2l1 u oh u 10x 6 1 3 1 1 1 e 2xq 2 7k 0 aw 0 2a 0 4u 1 18 3
    a 3 8 2 h 2 6 7 8 6 xyf 1 385 3"

def v150Table : String :=
    "2k3 0 d6 0 1elq 2 n3 2 1q6 9 s6 g 1 14 3 r 445 0 9 s onw 0 y 0 6lm j 2fl 5 79 1p x 0 u8
    15 3j6 0 47 2 4 4 2h 0 ij 2 f 1 10 2 b 2 1 0 e 1 a 1 c 0 e 1 116o 0 i6u 38f"

def v151Table : String :=
    "9h8 3 dr 0 3tvk h9"

def v160Table : String :=
    "1p3 0 3p2 1 1b 0 7d 1 1i4 2 2pm 1 nad 2 c 2 ijn 1f 1fw 11 3 s 8 1 8i 2 1j 0 w3 9 1 0 2
    0 1 11 1 9 1 0 2 0 1 3 1 9 1 1 8 1 kt j yk x e 9 o0 0 45h 32y 5qd 1l 2di 1l 685 0 cg0
    6x 6 c3 4kc 16 4 0 3oy 9 4 1 cn 0 5 0 1a 0 7 0 l 0 2 0 9 0 69 10"

/-- The versions in the order of their appearance: their names, and what each of them assigned. -/
def versions : List (List String × String) :=
  [(["1.1", "v11"], v11Table),
   (["2.0", "v20"], v20Table),
   (["2.1", "v21"], v21Table),
   (["3.0", "v30"], v30Table),
   (["3.1", "v31"], v31Table),
   (["3.2", "v32"], v32Table),
   (["4.0", "v40"], v40Table),
   (["4.1", "v41"], v41Table),
   (["5.0", "v50"], v50Table),
   (["5.1", "v51"], v51Table),
   (["5.2", "v52"], v52Table),
   (["6.0", "v60"], v60Table),
   (["6.1", "v61"], v61Table),
   (["6.2", "v62"], v62Table),
   (["6.3", "v63"], v63Table),
   (["7.0", "v70"], v70Table),
   (["8.0", "v80"], v80Table),
   (["9.0", "v90"], v90Table),
   (["10.0", "v100"], v100Table),
   (["11.0", "v110"], v110Table),
   (["12.0", "v120"], v120Table),
   (["12.1", "v121"], v121Table),
   (["13.0", "v130"], v130Table),
   (["14.0", "v140"], v140Table),
   (["15.0", "v150"], v150Table),
   (["15.1", "v151"], v151Table),
   (["16.0", "v160"], v160Table)]

/-- The tables up to the version with a name. -/
def tablesUpTo (name : String) : List (List String × String) → Option (List String)
  | [] => none
  | (names, table) :: later =>
    if names.contains name then some [table] else (tablesUpTo name later).map (table :: ·)

/-- The code points that the version with a name has. -/
def named? (name : String) : Option RangeSet :=
  (tablesUpTo name versions).map fun tables => RangeSet.ofRanges (tables.flatMap Table.ranges)

end PxeLaunch.Unicode.Age

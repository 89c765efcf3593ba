import PxeLaunch.Unicode.Table

/-!
The code points that are used with each script, by the name of the script.
-/

set_option autoImplicit false

namespace PxeLaunch.Unicode.ScriptExtensions

def adlamTable : String :=
    "17j 0 w 0 55a 0 2r5 0 2fge 23 4 9 4 1"

def ahomTable : String :=
    "1j40 q 2 e 4 m"

def anatolianHieroglyphsTable : String :=
    "1s00 g6"

def arabicTable : String :=
    "16o 4 1 5y 1 x 28 1b 6o u 1 1 5 22 1 s 4lr 0 2r5 0 14i6 36 g cc 2 1h 7 0 w f 34 4 1 3q
    rn r 290 u 1v 2 1j 3 181s 3 1 q 1 1 1 0 2 0 1 9 1 3 1 0 1 0 6 0 4 0 1 0 1 0 1 2 1 1 1 0
    2 0 1 0 1 0 1 0 1 0 1 1 1 0 2 3 1 6 1 3 1 3 1 0 1 9 1 g 5 2 1 4 1 g 1g 1"

def armenianTable : String :=
    "lk 0 fc 11 2 1d 2 2 1chv 4"

def avestanTable : String :=
    "53 0 8zc 1 17m6 1h 3 6"

def balineseTable : String :=
    "5c0 24 1 1d"

def bamumTable : String :=
    "www 2f 124o fs"

def bassaVahTable : String :=
    "1zo0 t 2 5"

def batakTable : String :=
    "5hc 1f 8 3"

def bengaliTable : String :=
    "jg 0 1as 1 h 1 q 3 1 7 2 1 2 l 1 6 1 0 3 3 2 8 2 1 2 3 8 0 4 1 1 4 2 o 3pt 0 1 0 2 1 1
    0 8 0 8 0 2 0 4 0 2 2 rnd 0"

def bhaiksukiTable : String :=
    "1k3k 8 1 18 1 d a s"

def bopomofoTable : String :=
    "jr 0 1 2 d 0 g 1 8wl 2 4 9 1 c a 3 2 0 6 0 5f 0 9 16 34 v 14ed 1 7u 4"

def brahmiTable : String :=
    "1hq8 25 4 z 9 0"

def brailleTable : String :=
    "7wg 73"

def bugineseTable : String :=
    "54w r 2 1 sdr 0"

def buhidTable : String :=
    "4l1 1 9 j"

def canadianAboriginalTable : String :=
    "3y8 hr fk 1x 1ewq f"

def carianTable : String :=
    "53 0 68y 0 2 0 2qb 0 15ym 1c"

def caucasianAlbanianTable : String :=
    "lg 0 18 0 18 0 1exd 1f b 0"

def chakmaTable : String :=
    "1ye 9 18w 9 1epi 1g 1 h"

def chamTable : String :=
    "xkw 1i 9 d 2 9 2 3"

def cherokeeTable : String :=
    "lc 2 1 0 6 1 m 1 b 1 38u 2d 2 5 twy 27"

def chorasmianTable : String :=
    "1ho0 r"

def commonTable : String :=
    "0 1s q 5 q 1a 1 b 1 1 1 4 n 0 v 0 ch 2 1 9 1 0 3 0 1 8 1 0 1 5 5 4 2 j 3i 0 6 0 1 0 hp
    0 5z 0 ec 0 124 0 b9 3 36v b 2 w 1 u 1 9 1 1 1 6 1 a 3 a 1 e h w 1r 11 1 2 2 5 1 q 1 g
    15 2 4 ih m a l pr 74 hf 2 v 1 2w e8 m 1 n 2 9 1 3 1 0 1 p bm 0 3 0 d 0 d 0 l 0 ep n v
    0 1d e c 3 4h 9 5 2n v 0 534 1r hl4 p 2u 2 r4 0 e 1 gbo 9 m k 2 b 1 i 1 3 43 0 1 v q 5
    q 5 3j 6 1 6 a 4 b6 c 1f 18 13wj 6x 6 c3 4c 37 1o 6t a 12 2 1p 3 g 8 1 7 t 4 1o 5x j c
    j c 2e r 6 3r 2c 1 1y 1 1 2 0 2 1 2 3 1 b 1 0 1 6 1 1s 1 3 2 7 1 6 1 r 1 3 1 4 1 0 3 6
    1 9f 2 83 2 1d 41d 1v 24 1o jm 17 4 2r c e 2 e 1 e 1 10 a 4t 1k p 1 1 d 17 4 8 n 5 4a
    rb 4 g 3 c 3 3a 4 2m 6 b 4 0 f b 4 1j 8 9 6 13 8 t 2 b 4 1 1q 9f c d 2 c 3 9 5 1j 7 e 2
    a 6 8 7 42 1 2t gvlz 0 u 2n"

def copticTable : String :=
    "53 0 g8 0 3 1 1 0 30 1 30 d 80g 37 5 6 7r 0 1614 r"

def cuneiformTable : String :=
    "1kw0 pl 2u 32 1 4 b 5f"

def cypriotTable : String :=
    "1erk 2 4 18 3 8 1c0 5 2 0 1 17 1 1 3 0 2 0"

def cyproMinoanTable : String :=
    "1erk 1 972 2q"

def cyrillicTable : String :=
    "jg 0 1v 2 1 0 1 0 1 0 2 0 5 0 6m 8f 4ls a 4g 0 24 0 3j 0 353 v 1v 0 np8 2n ham 1 18n4
    1p x 0"

def deseretTable : String :=
    "1fcw 27"

def devanagariTable : String :=
    "jg 0 18j 2a 2 16 3tc 12 1 1 s6 0 qpr 9 4m v mio 9"

def divesAkuruTable : String :=
    "1ji8 6 2 0 2 7 1 1 1 t 1 1 2 b 9 9"

def dograTable : String :=
    "1us b vcw 9 m2u 1n"

def duployanTable : String :=
    "53 0 gf 1 1 0 o 1 8if 0 26kj 2y 5 c 3 8 7 9 2 7"

def egyptianHieroglyphsTable : String :=
    "1o1s ut a 32y"

def elbasanTable : String :=
    "53 0 gd 0 1eyi 13"

def elymaicTable : String :=
    "1hpc m"

def ethiopicTable : String :=
    "lq 0 2y9 20 1 3 2 6 1 0 1 3 2 14 1 3 2 w 1 3 2 6 1 0 1 3 2 e 1 1k 1 3 2 1u 2 v 3 p 546
    m 9 6 1 6 1 6 1 6 1 6 1 6 1 6 1 6 opu 5 2 5 2 5 9 6 1 6 1qk1 6 1 3 1 1 1 e"

def garayTable : String :=
    "170 0 e 0 3 0 1fz4 11 3 s 8 1"

def georgianTable : String :=
    "53 0 y9 0 26u 11 1 0 5 0 2 1b 2a8 16 2 2 pm 0 2hx 11 1 0 5 0 77 0"

def glagoliticTable : String :=
    "53 0 gb 0 1 0 am 0 2 0 75 0 29d 0 31a 0 2at 2n df 0 nqj 0 1pxs 6 1 g 2 6 1 1 1 4"

def gothicTable : String :=
    "53 0 gc 1 2 0 14 0 1eke q"

def granthaTable : String :=
    "1u9 1 h 1 hs d 3bw 0 1 1 u 2 3 1 s6 0 1btb 3 1 7 2 1 2 l 1 6 1 1 1 4 1 9 2 1 2 2 2 0 6
    0 5 6 2 6 3 4 2fv 1 1 0"

def greekTable : String :=
    "53 0 g8 1 2 0 1 0 1 0 a 0 1a 0 2 0 16 7 2 3 1 0 4 0 1 0 1 2 1 0 1 j 1 1q e f 4yu 4 1e 4
    4 4 2c 2 8u l 2 5 2 11 2 5 2 7 1 0 1 0 1 0 1 u 2 1g 1 e 1 d 2 5 1 i 2 2 1 8 2m 0 5k 0
    rb2 0 gyi 26 h 0 155r 1x"

def gujaratiTable : String :=
    "1u9 1 h 1 7v 2 1 8 1 2 1 l 1 6 1 1 1 4 2 9 1 2 1 2 2 0 f 3 2 b 7 6 v1s 9"

def gunjalaGondiTable : String :=
    "53 0 1po 1 1iii 5 1 1 1 10 1 1 1 5 7 9"

def gurmukhiTable : String :=
    "1u9 1 h 1 4b 2 1 5 4 1 2 l 1 6 1 1 1 1 1 1 2 0 1 4 4 1 2 2 3 0 7 3 1 0 7 g v5l 9"

def gurungKhemaTable : String :=
    "1ut 0 1vve 1l"

def hanTable : String :=
    "53 0 91k p 1 2g c 5x q f 1 2 1 c 1 c 1 c 2 0 6 8 57 0 44 f w 11 9 0 1c 13 1k 1c f b 1f
    0 2g o a 4 2o u 1 533 1s g73 1ds 7 g6w a5 2 2x ob 1 7u 4 m7w 1 c 1 jn2 h 63i 1 2pa wyn
    w 37d 6 65 2 4g1 e 5rk f h9 1wi f1 15u 3t6 5 38f"

def hangulTable : String :=
    "3cw 73 5xd 2 4 9 1 c e 2 6 0 5f 0 1h 2l 35 u 1t u nhd s hv 8mb c m 4 1c 7k9 1 7u 4 1m u
    3 5 2 5 2 5 2 2"

def hanifiRohingyaTable : String :=
    "170 0 e 0 3 0 w 0 43 0 1fsb 13 8 9"

def hanunooTable : String :=
    "4kg m"

def hatranTable : String :=
    "1gbk i 1 1 5 4"

def hebrewTable : String :=
    "lj 1 i0 1i 8 q 4 5 1cfc p 1 4 1 0 1 1 1 1 1 9"

def hiraganaTable : String :=
    "9hd 2 4 9 1 c g 5 1 0 4 1 3 2d 2 7 2i 1 14js 1 7u 4 a 0 19 1 yu9 7y i 0 t 2 crx 0"

def imperialAramaicTable : String :=
    "1g74 l 1 8"

def inheritedTable : String :=
    "lr 0 2 0 1 b 1 1 3 6 2 0 2 f 1 1 1 h 1 4 1 3 168 1 3ff u kz 1h 1 0 1 4 ek 1 5e v 17o0 f
    g d r3 0 14hu 19 2 m f4 2 h 7 2 6 u 3 h45u 6n"

def inscriptionalPahlaviTable : String :=
    "1gtc i 5 7"

def inscriptionalParthianTable : String :=
    "1gsg l 2 7"

def javaneseTable : String :=
    "xhc 25 1 a 4 1"

def kaithiTable : String :=
    "1uu 9 79d 0 o3i 9 kli 1u a 0"

def kannadaTable : String :=
    "1u9 1 h 1 m2 c 1 2 1 m 1 9 1 4 2 8 1 2 1 3 7 1 6 1 1 3 2 9 1 2 34s 0 1 1 6 0 n 0 1 0
    ri3 5"

def katakanaTable : String :=
    "lh 0 t 0 8v1 2 4 9 1 c g 5 1 0 4 1 2j 3 3 2n 6o f 5s 1a 1 2f 1431 1 7u 1q yts 3 1 6 1 1
    1 0 7z 2 1e 0 e 3"

def kawiTable : String :=
    "1kow g 1 14 3 s"

def kayahLiTable : String :=
    "xds 1b"

def kharoshthiTable : String :=
    "1gjk 3 1 1 5 7 1 2 1 s 2 2 4 9 7 8"

def khitanSmallScriptTable : String :=
    "20o4 0 5cr d1 15 0"

def khmerTable : String :=
    "4n4 2l 2 9 6 9 di v"

def khojkiTable : String :=
    "25i 9 v28 9 kw6 h 1 1a"

def khudawadiTable : String :=
    "1us 1 vd6 9 l12 1m 5 9"

def kiratRaiTable : String :=
    "205c 1l"

def laoTable : String :=
    "2v5 1 1 0 1 4 1 n 1 0 1 m 2 4 1 0 1 6 1 9 2 3"

def latinTable : String :=
    "1t p 6 p 1b 0 c 0 2 0 5 m 1 u 1 cg 3 0 a 0 1 2 1 0 9 0 1 0 6 4 r e 1 1 1 0 c 0 2 2 7 1
    1 1 12 0 5 0 4 c 7p 1 y2 1 1ig 0 2dg 11 6 1c 5 3 5 c 1 1x 1l 0 7 73 8f 0 1t 0 d 0 g c
    2b 0 1l 1 6 0 r 0 h 14 253 v bb 0 nvs 7 q 2t 3 1u 2 1 1 0 1 7 l d 8e 0 e9 16 1 8 1 3
    fpy 6 t6 p 6 p 1lx 5 1 15 1 8 16it u 6 5"

def lepchaTable : String :=
    "5j4 1j 3 e 3 2"

def limbuTable : String :=
    "1ut 0 32y u 1 b 4 b 4 0 3 b"

def linearATable : String :=
    "1err 18 y4 8m 9 l a 7"

def linearBTable : String :=
    "1ekg b 1 p 1 i 1 1 1 e 2 d y 3e 5 2 4 18 3 8"

def lisuTable : String :=
    "jg 0 g 0 8xo 1 n2c 1b o8g 0"

def lycianTable : String :=
    "6e2 0 18o5 s"

def lydianTable : String :=
    "53 0 8zd 0 178u p 5 0"

def mahajaniTable : String :=
    "53 0 1po b vcw 9 kra 12"

def makasarTable : String :=
    "1ko0 o"

def malayalamTable : String :=
    "1u9 1 h 1 pm c 1 2 1 1e 1 2 1 5 4 f 2 p 316 0 n 0 ri5 2"

def mandaicTable : String :=
    "18g 0 e7 r 2 0"

def manichaeanTable : String :=
    "18g 0 1fgf 12 4 b"

def marchenTable : String :=
    "1k6o v 2 l 1 d"

def masaramGondiTable : String :=
    "1us 1 1ifu 6 1 1 1 17 3 0 1 1 1 8 8 9"

def medefaidrinTable : String :=
    "20cg 2i"

def meeteiMayekTable : String :=
    "xr4 m 5l 19 2 9"

def mendeKikakuiTable : String :=
    "2oe8 5g 2 f"

def meroiticCursiveTable : String :=
    "1ggw n 4 j 2 19"

def meroiticHieroglyphsTable : String :=
    "6e5 0 1a1u v"

def miaoTable : String :=
    "20hs 22 4 1k 7 g"

def modiTable : String :=
    "x80 9 lom 1w b 9"

def mongolianTable : String :=
    "4qo p 6 2g 7 16 1hg 0 34h 1 5 3 19hw c"

def mroTable : String :=
    "1zk0 u 1 9 4 1"

def multaniTable : String :=
    "21y 9 1g5s 6 1 0 1 3 1 e 1 a"

def myanmarTable : String :=
    "35s 4f u4u 0 4x u 2p v le8 j"

def nabataeanTable : String :=
    "1g8w u 8 8"

def nagMundariTable : String :=
    "2nrk 15"

def nandinagariTable : String :=
    "1us 1 ow 9 35l 0 8 0 7 0 rhx 5 mei 7 2 19 2 a"

def newTaiLueTable : String :=
    "51c 17 4 p 6 a 3 1"

def newaTable : String :=
    "1iio 2j 1 4"

def nkoTable : String :=
    "170 0 e 0 3 0 bk 1m 2 2 1cfy 1"

def nushuTable : String :=
    "20o1 0 cy6 az"

def nyiakengPuachueHmongTable : String :=
    "2n0g 18 3 d 2 9 4 1"

def oghamTable : String :=
    "4g0 s"

def olChikiTable : String :=
    "5lc 1b"

def olOnalTable : String :=
    "1us 1 2m3u 16 4 0"

def oldHungarianTable : String :=
    "6e2 0 2 0 2qb 0 f 0 17we 1e d 1e 7 5"

def oldItalicTable : String :=
    "1f5s z 9 2"

def oldNorthArabianTable : String :=
    "1gn4 v"

def oldPermicTable : String :=
    "53 0 g8 0 5 2 a 0 a7 0 1ebw 16"

def oldPersianTable : String :=
    "1fa8 z 4 d"

def oldSogdianTable : String :=
    "1hj4 13"

def oldSouthArabianTable : String :=
    "1gm8 v"

def oldTurkicTable : String :=
    "6e2 0 2qd 0 17tb 20"

def oldUyghurTable : String :=
    "18g 0 1fht 0 vx p"

def oriyaTable : String :=
    "1u9 1 h 1 bf 2 1 7 2 1 2 l 1 6 1 1 1 4 2 8 2 1 2 2 7 2 4 1 1 4 2 h 3fm 0 n 0"

def osageTable : String :=
    "ld 0 2 0 6 0 24 0 1etz z 4 z"

def osmanyaTable : String :=
    "1fgg t 2 9"

def pahawhHmongTable : String :=
    "1zpc 1x a 9 1 6 1 k 5 i"

def palmyreneTable : String :=
    "1g80 v"

def pauCinHauTable : String :=
    "1juo 1k"

def phagsPaTable : String :=
    "4qq 1 1 0 1m1 0 34i 0 nr1 1j"

def phoenicianTable : String :=
    "1gcg r 3 0"

def psalterPahlaviTable : String :=
    "18g 0 1flr h 7 3 c 6"

def rejangTable : String :=
    "xf4 z b 0"

def runicTable : String :=
    "4gw 2g"

def samaritanTable : String :=
    "1kw 19 2 e 7hu 0"

def saurashtraTable : String :=
    "xa8 1x 8 b"

def sharadaTable : String :=
    "1u9 0 3ut 0 1 0 2 1 2 0 rin 5 2 0 ksn 2n"

def shavianTable : String :=
    "53 0 1fa0 1b"

def siddhamTable : String :=
    "1itc 1h 2 11"

def signWritingTable : String :=
    "2l8g i3 f 4 1 e"

def sinhalaTable : String :=
    "1us 1 t7 2 1 h 3 n 1 8 1 0 2 6 3 0 4 5 1 0 1 7 6 9 2 2 2yl 0 1cdq j"

def sogdianTable : String :=
    "18g 0 1gbz 15"

def soraSompengTable : String :=
    "1hw0 o 7 9"

def soyomboTable : String :=
    "1jrk 2a"

def sundaneseTable : String :=
    "5fk 1r 74 7"

def sunuwarTable : String :=
    "lc 1 1 0 9 0 2 0 s 0 3 0 1jf2 x e 9"

def sylotiNagriTable : String :=
    "1us 1 3k 9 v80 18"

def syriacTable : String :=
    "lf 1 2 1 1 0 l 0 2 2 7 1 1 0 kb 0 e 1 2 0 w 0 a a q 0 3z d 1 1n 2 2 7k a 499 0 1 0"

def tagalogTable : String :=
    "4jk l 9 0 l 1"

def tagbanwaTable : String :=
    "4l1 1 15 c 1 2 1 1"

def taiLeTable : String :=
    "lc 1 5 1 3 0 2lv 9 1s6 t 2 4"

def taiThamTable : String :=
    "55s 1q 1 s 2 a 6 9 6 d"

def taiVietTable : String :=
    "xog 1u o 4"

def takriTable : String :=
    "1us 1 vd6 9 ls6 1l 6 9"

def tamilTable : String :=
    "1u9 1 h 1 f0 1 1 5 3 2 1 3 3 1 1 0 1 1 3 1 3 2 3 b 4 4 3 2 1 3 2 0 6 0 e k 3bz 0 ro8 0
    ky5 0 1 0 1j 1 2gz 1d d 0"

def tangsaTable : String :=
    "1zlc 26 1 9"

def tangutTable : String :=
    "9gw f dr 0 1qsw 0 v 4qf 8 lb e8 8"

def teluguTable : String :=
    "1u9 1 h 1 ii c 1 2 1 m 1 f 2 8 1 2 1 3 7 1 1 2 2 0 2 3 2 9 7 8 38a 0 n 0"

def thaanaTable : String :=
    "170 0 e 1 2 0 1s 9 7q 1d 1cn4 0 a 0"

def thaiTable : String :=
    "jg 0 q 0 17 0 19 0 24v 1l 5 r"

def tibetanTable : String :=
    "2yo 1z 1 z 4 12 1 z 1 e 1 6 4 1 6ct 3"

def tifinaghTable : String :=
    "le 0 1 0 2 0 1 0 8bq 1j 7 1 e 0"

def tirhutaTable : String :=
    "1u9 1 h 1 3v0 0 ri5 9 ldy 1z 8 9"

def todhriTable : String :=
    "ld 0 2 0 2 0 9 0 1 0 22 0 1f1d 1f"

def totoTable : String :=
    "jg 0 2ms3 u"

def tuluTigalariTable : String :=
    "2jq 9 35u 0 1 0 ri3 5 57 0 l1q 9 1 0 2 0 1 11 1 9 1 0 2 0 1 3 1 9 1 1 8 1"

def ugariticTable : String :=
    "1f9c t 1 0"

def vaiTable : String :=
    "wlc 8b"

def vithkuqiTable : String :=
    "1fn4 a 1 e 1 6 1 1 1 a 1 e 1 6 1 1"

def wanchoTable : String :=
    "2ncw 1l 5 0"

def warangCitiTable : String :=
    "1jfk 2a c 0"

def yezidiTable : String :=
    "170 0 e 0 3 0 1s 9 1g5y 15 1 2 2 1"

def yiTable : String :=
    "9hd 1 5 9 2 7 67 0 lxg wc 3 1i hwa 4"

def zanabazarSquareTable : String :=
    "1jpc 1z"

/-- The table of the set with a name. -/
def table? (name : String) : Option String :=
  match name with
  | "adlam" | "adlm" => some adlamTable
  | "ahom" => some ahomTable
  | "anatolianhieroglyphs" | "hluw" => some anatolianHieroglyphsTable
  | "arab" | "arabic" => some arabicTable
  | "armenian" | "armn" => some armenianTable
  | "avestan" | "avst" => some avestanTable
  | "bali" | "balinese" => some balineseTable
  | "bamu" | "bamum" => some bamumTable
  | "bass" | "bassavah" => some bassaVahTable
  | "batak" | "batk" => some batakTable
  | "beng" | "bengali" => some bengaliTable
  | "bhaiksuki" | "bhks" => some bhaiksukiTable
  | "bopo" | "bopomofo" => some bopomofoTable
  | "brah" | "brahmi" => some brahmiTable
  | "brai" | "braille" => some brailleTable
  | "bugi" | "buginese" => some bugineseTable
  | "buhd" | "buhid" => some buhidTable
  | "canadianaboriginal" | "cans" => some canadianAboriginalTable
  | "cari" | "carian" => some carianTable
  | "aghb" | "caucasianalbanian" => some caucasianAlbanianTable
  | "cakm" | "chakma" => some chakmaTable
  | "cham" => some chamTable
  | "cher" | "cherokee" => some cherokeeTable
  | "chorasmian" | "chrs" => some chorasmianTable
  | "common" | "zyyy" => some commonTable
  | "copt" | "coptic" | "qaac" => some copticTable
  | "cuneiform" | "xsux" => some cuneiformTable
  | "cprt" | "cypriot" => some cypriotTable
  | "cpmn" | "cyprominoan" => some cyproMinoanTable
  | "cyrillic" | "cyrl" => some cyrillicTable
  | "deseret" | "dsrt" => some deseretTable
  | "deva" | "devanagari" => some devanagariTable
  | "diak" | "divesakuru" => some divesAkuruTable
  | "dogr" | "dogra" => some dograTable
  | "dupl" | "duployan" => some duployanTable
  | "egyp" | "egyptianhieroglyphs" => some egyptianHieroglyphsTable
  | "elba" | "elbasan" => some elbasanTable
  | "elym" | "elymaic" => some elymaicTable
  | "ethi" | "ethiopic" => some ethiopicTable
  | "gara" | "garay" => some garayTable
  | "geor" | "georgian" => some georgianTable
  | "glag" | "glagolitic" => some glagoliticTable
  | "goth" | "gothic" => some gothicTable
  | "gran" | "grantha" => some granthaTable
  | "greek" | "grek" => some greekTable
  | "gujarati" | "gujr" => some gujaratiTable
  | "gong" | "gunjalagondi" => some gunjalaGondiTable
  | "gurmukhi" | "guru" => some gurmukhiTable
  | "gukh" | "gurungkhema" => some gurungKhemaTable
  | "han" | "hani" => some hanTable
  | "hang" | "hangul" => some hangulTable
  | "hanifirohingya" | "rohg" => some hanifiRohingyaTable
  | "hano" | "hanunoo" => some hanunooTable
  | "hatr" | "hatran" => some hatranTable
  | "hebr" | "hebrew" => some hebrewTable
  | "hira" | "hiragana" => some hiraganaTable
  | "armi" | "imperialaramaic" => some imperialAramaicTable
  | "inherited" | "qaai" | "zinh" => some inheritedTable
  | "inscriptionalpahlavi" | "phli" => some inscriptionalPahlaviTable
  | "inscriptionalparthian" | "prti" => some inscriptionalParthianTable
  | "java" | "javanese" => some javaneseTable
  | "kaithi" | "kthi" => some kaithiTable
  | "kannada" | "knda" => some kannadaTable
  | "kana" | "katakana" => some katakanaTable
  | "kawi" => some kawiTable
  | "kali" | "kayahli" => some kayahLiTable
  | "khar" | "kharoshthi" => some kharoshthiTable
  | "khitansmallscript" | "kits" => some khitanSmallScriptTable
  | "khmer" | "khmr" => some khmerTable
  | "khoj" | "khojki" => some khojkiTable
  | "khudawadi" | "sind" => some khudawadiTable
  | "kiratrai" | "krai" => some kiratRaiTable
  | "lao" | "laoo" => some laoTable
  | "latin" | "latn" => some latinTable
  | "lepc" | "lepcha" => some lepchaTable
  | "limb" | "limbu" => some limbuTable
  | "lina" | "lineara" => some linearATable
  | "linb" | "linearb" => some linearBTable
  | "lisu" => some lisuTable
  | "lyci" | "lycian" => some lycianTable
  | "lydi" | "lydian" => some lydianTable
  | "mahajani" | "mahj" => some mahajaniTable
  | "maka" | "makasar" => some makasarTable
  | "malayalam" | "mlym" => some malayalamTable
  | "mand" | "mandaic" => some mandaicTable
  | "mani" | "manichaean" => some manichaeanTable
  | "marc" | "marchen" => some marchenTable
  | "gonm" | "masaramgondi" => some masaramGondiTable
  | "medefaidrin" | "medf" => some medefaidrinTable
  | "meeteimayek" | "mtei" => some meeteiMayekTable
  | "mend" | "mendekikakui" => some mendeKikakuiTable
  | "merc" | "meroiticcursive" => some meroiticCursiveTable
  | "mero" | "meroitichieroglyphs" => some meroiticHieroglyphsTable
  | "miao" | "plrd" => some miaoTable
  | "modi" => some modiTable
  | "mong" | "mongolian" => some mongolianTable
  | "mro" | "mroo" => some mroTable
  | "mult" | "multani" => some multaniTable
  | "myanmar" | "mymr" => some myanmarTable
  | "nabataean" | "nbat" => some nabataeanTable
  | "nagm" | "nagmundari" => some nagMundariTable
  | "nand" | "nandinagari" => some nandinagariTable
  | "newtailue" | "talu" => some newTaiLueTable
  | "newa" => some newaTable
  | "nko" | "nkoo" => some nkoTable
  | "nshu" | "nushu" => some nushuTable
  | "hmnp" | "nyiakengpuachuehmong" => some nyiakengPuachueHmongTable
  | "ogam" | "ogham" => some oghamTable
  | "olchiki" | "olck" => some olChikiTable
  | "olonal" | "onao" => some olOnalTable
  | "hung" | "oldhungarian" => some oldHungarianTable
  | "ital" | "olditalic" => some oldItalicTable
  | "narb" | "oldnortharabian" => some oldNorthArabianTable
  | "oldpermic" | "perm" => some oldPermicTable
  | "oldpersian" | "xpeo" => some oldPersianTable
  | "oldsogdian" | "sogo" => some oldSogdianTable
  | "oldsoutharabian" | "sarb" => some oldSouthArabianTable
  | "oldturkic" | "orkh" => some oldTurkicTable
  | "olduyghur" | "ougr" => some oldUyghurTable
  | "oriya" | "orya" => some oriyaTable
  | "osage" | "osge" => some osageTable
  | "osma" | "osmanya" => some osmanyaTable
  | "hmng" | "pahawhhmong" => some pahawhHmongTable
  | "palm" | "palmyrene" => some palmyreneTable
  | "pauc" | "paucinhau" => some pauCinHauTable
  | "phag" | "phagspa" => some phagsPaTable
  | "phnx" | "phoenician" => some phoenicianTable
  | "phlp" | "psalterpahlavi" => some psalterPahlaviTable
  | "rejang" | "rjng" => some rejangTable
  | "runic" | "runr" => some runicTable
  | "samaritan" | "samr" => some samaritanTable
  | "saur" | "saurashtra" => some saurashtraTable
  | "sharada" | "shrd" => some sharadaTable
  | "shavian" | "shaw" => some shavianTable
  | "sidd" | "siddham" => some siddhamTable
  | "sgnw" | "signwriting" => some signWritingTable
  | "sinh" | "sinhala" => some sinhalaTable
  | "sogd" | "sogdian" => some sogdianTable
  | "sora" | "sorasompeng" => some soraSompengTable
  | "soyo" | "soyombo" => some soyomboTable
  | "sund" | "sundanese" => some sundaneseTable
  | "sunu" | "sunuwar" => some sunuwarTable
  | "sylo" | "sylotinagri" => some sylotiNagriTable
  | "syrc" | "syriac" => some syriacTable
  | "tagalog" | "tglg" => some tagalogTable
  | "tagb" | "tagbanwa" => some tagbanwaTable
  | "taile" | "tale" => some taiLeTable
  | "lana" | "taitham" => some taiThamTable
  | "taiviet" | "tavt" => some taiVietTable
  | "takr" | "takri" => some takriTable
  | "tamil" | "taml" => some tamilTable
  | "tangsa" | "tnsa" => some tangsaTable
  | "tang" | "tangut" => some tangutTable
  | "telu" | "telugu" => some teluguTable
  | "thaa" | "thaana" => some thaanaTable
  | "thai" => some thaiTable
  | "tibetan" | "tibt" => some tibetanTable
  | "tfng" | "tifinagh" => some tifinaghTable
  | "tirh" | "tirhuta" => some tirhutaTable
  | "todhri" | "todr" => some todhriTable
  | "toto" => some totoTable
  | "tulutigalari" | "tutg" => some tuluTigalariTable
  | "ugar" | "ugaritic" => some ugariticTable
  | "vai" | "vaii" => some vaiTable
  | "vith" | "vithkuqi" => some vithkuqiTable
  | "wancho" | "wcho" => some wanchoTable
  | "wara" | "warangciti" => some warangCitiTable
  | "yezi" | "yezidi" => some yezidiTable
  | "yi" | "yiii" => some yiTable
  | "zanabazarsquare" | "zanb" => some zanabazarSquareTable
  | _ => none

/-- The code points of the set with a name. -/
def named? (name : String) : Option RangeSet := (table? name).map Table.ranges

end PxeLaunch.Unicode.ScriptExtensions

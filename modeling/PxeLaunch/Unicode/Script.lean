import PxeLaunch.Unicode.Table

/-!
The script of each code point, by the name of the script.
-/

set_option autoImplicit false

namespace PxeLaunch.Unicode.Script

def adlamTable : String :=
    "2olc 23 4 9 4 1"

def ahomTable : String :=
    "1j40 q 2 e 4 m"

def anatolianHieroglyphsTable : String :=
    "1s00 g6"

def arabicTable : String :=
    "16o 4 1 5 1 d 1 2 1 v 1 9 b p 1 2z 1 x 28 1b 6o u 1 1 5 22 1 s 1bv4 36 g a2 2 27 2 1h 7
    0 w f 34 4 1 3q 31f u 1v 2 1j 3 181s 3 1 q 1 1 1 0 2 0 1 9 1 3 1 0 1 0 6 0 4 0 1 0 1 0
    1 2 1 1 1 0 2 0 1 0 1 0 1 0 1 0 1 1 1 0 2 3 1 6 1 3 1 3 1 0 1 9 1 g 5 2 1 4 1 g 1g 1"

def armenianTable : String :=
    "10x 11 2 1d 2 2 1chv 4"

def avestanTable : String :=
    "1gqo 1h 3 6"

def balineseTable : String :=
    "5c0 24 1 1d"

def bamumTable : String :=
    "www 2f 124o fs"

def bassaVahTable : String :=
    "1zo0 t 2 5"

def batakTable : String :=
    "5hc 1f 8 3"

def bengaliTable : String :=
    "1vk 3 1 7 2 1 2 l 1 6 1 0 3 3 2 8 2 1 2 3 8 0 4 1 1 4 2 o"

def bhaiksukiTable : String :=
    "1k3k 8 1 18 1 d a s"

def bopomofoTable : String :=
    "kq 1 93t 16 34 v"

def brahmiTable : String :=
    "1hq8 25 4 z 9 0"

def brailleTable : String :=
    "7wg 73"

def bugineseTable : String :=
    "54w r 2 1"

def buhidTable : String :=
    "4lc j"

def canadianAboriginalTable : String :=
    "3y8 hr fk 1x 1ewq f"

def carianTable : String :=
    "1f34 1c"

def caucasianAlbanianTable : String :=
    "1flc 1f b 0"

def chakmaTable : String :=
    "1hxc 1g 1 h"

def chamTable : String :=
    "xkw 1i 9 d 2 9 2 3"

def cherokeeTable : String :=
    "3vk 2d 2 5 twy 27"

def chorasmianTable : String :=
    "1ho0 r"

def commonTable : String :=
    "0 1s q 5 q 1a 1 e 1 4 n 0 v 0 ch 12 5 4 2 j 38 0 9 0 6 0 1 0 hp 0 6 0 e 0 3 0 w 0 4c 0
    ec 0 3l 1 yh 0 b9 3 82 0 167 2 1z 1 5n 1 1 0 y5 0 d 0 7 3 1 5 1 2 2 0 lh b 2 2e 1 a 3 a
    1 e h w 1r 11 1 2 2 5 1 q 1 g 15 2 4 ih m a l pr 74 hf 2 v 1 2w e8 2l b6 k 1 0 1 o f 7
    4 3 2j 1 3 0 2i 1 43 f w 11 9 0 1c 1r v 28 1b 0 2g 4n 534 1r hkw x 2u 2 4l 9 6s 0 4g 0
    az 0 e 1 g5u 1 5s 9 m y 1 i 1 3 43 0 1 v q 5 q a a 0 19 1 1s 6 1 6 a 4 76 2 4 18 3 8 28
    c 1f 18 6c q 10o4 3 318 6x 6 c3 4c 37 1o 6t a 12 2 1p 3 g 8 1 7 t 4 1o 5x j c j c 2e 9
    o 3r 2c 1 1y 1 1 2 0 2 1 2 3 1 b 1 0 1 6 1 1s 1 3 2 7 1 6 1 r 1 3 1 4 1 0 3 6 1 9f 2 83
    2 1d 41d 1v 24 1o jm 17 4 2r c e 2 e 1 e 1 10 a 4t 1k p 1 1 d 17 4 8 7 1 e 5 4a rb 4 g
    3 c 3 3a 4 2m 6 b 4 0 f b 4 1j 8 9 6 13 8 t 2 b 4 1 1q 9f c d 2 c 3 9 5 1j 7 e 2 a 6 8
    7 42 1 2t gvlz 0 u 2n"

def copticTable : String :=
    "rm d 80g 37 5 6"

def cuneiformTable : String :=
    "1kw0 pl 2u 32 1 4 b 5f"

def cypriotTable : String :=
    "1g5c 5 2 0 1 17 1 1 3 0 2 0"

def cyproMinoanTable : String :=
    "1nyo 2q"

def cyrillicTable : String :=
    "sg 3o 2 4o 4ls a 4g 0 24 0 38n v nr4 2n ham 1 18n4 1p x 0"

def deseretTable : String :=
    "1fcw 27"

def devanagariTable : String :=
    "1s0 28 4 e 2 p vhc v mio 9"

def divesAkuruTable : String :=
    "1ji8 6 2 0 2 7 1 1 1 t 1 1 2 b 9 9"

def dograTable : String :=
    "1jb4 1n"

def duployanTable : String :=
    "2fpc 2y 5 c 3 8 7 9 2 3"

def egyptianHieroglyphsTable : String :=
    "1o1s ut a 32y"

def elbasanTable : String :=
    "1fk0 13"

def elymaicTable : String :=
    "1hpc m"

def ethiopicTable : String :=
    "3k0 20 1 3 2 6 1 0 1 3 2 14 1 3 2 w 1 3 2 6 1 0 1 3 2 e 1 1k 1 3 2 1u 2 v 3 p 546 m 9 6
    1 6 1 6 1 6 1 6 1 6 1 6 1 6 opu 5 2 5 2 5 9 6 1 6 1qk1 6 1 3 1 1 1 e"

def garayTable : String :=
    "1h6o 11 3 s 8 1"

def georgianTable : String :=
    "3a8 11 1 0 5 0 2 16 1 3 2a8 16 2 2 37k 11 1 0 5 0"

def glagoliticTable : String :=
    "8ow 2n 2e1s 6 1 g 2 6 1 1 1 4"

def gothicTable : String :=
    "1f74 q"

def granthaTable : String :=
    "1ibk 3 1 7 2 1 2 l 1 6 1 1 1 4 2 8 2 1 2 2 2 0 6 0 5 6 2 6 3 4"

def greekTable : String :=
    "og 3 1 2 2 3 1 0 4 0 1 0 1 2 1 0 1 j 1 1q e f 4yu 4 1e 4 4 4 2c 0 8w l 2 5 2 11 2 5 2 7
    1 0 1 0 1 0 1 u 2 1g 1 e 1 d 2 5 1 i 2 2 1 8 87 0 rb2 0 gyi 26 h 0 155r 1x"

def gujaratiTable : String :=
    "22p 2 1 8 1 2 1 l 1 6 1 1 1 4 2 9 1 2 1 2 2 0 f 3 2 b 7 6"

def gunjalaGondiTable : String :=
    "1kdc 5 1 1 1 10 1 1 1 5 7 9"

def gurmukhiTable : String :=
    "1z5 2 1 5 4 1 2 l 1 6 1 1 1 1 1 1 2 0 1 4 4 1 2 2 3 0 7 3 1 0 7 g"

def gurungKhemaTable : String :=
    "1xq8 1l"

def hanTable : String :=
    "96o p 1 2g c 5x 1b 0 1 0 p 8 e 3 qs 533 1s g73 hkw a5 2 2x n48 1 c 1 sge wyn w 37d 6 65
    2 4g1 e 5rk f h9 1wi f1 15u 3t6 5 38f"

def hangulTable : String :=
    "3cw 73 5ym 1 75 2l 35 u 1t u nhd s hv 8mb c m 4 1c 7tw u 3 5 2 5 2 5 2 2"

def hanifiRohingyaTable : String :=
    "1h4w 13 8 9"

def hanunooTable : String :=
    "4kg k"

def hatranTable : String :=
    "1gbk i 1 1 5 4"

def hebrewTable : String :=
    "13l 1i 8 q 4 5 1cfc p 1 4 1 0 1 1 1 1 1 9"

def hiraganaTable : String :=
    "9j5 2d 6 2 23q9 7y i 0 t 2 crx 0"

def imperialAramaicTable : String :=
    "1g74 l 1 8"

def inheritedTable : String :=
    "lc 33 7p 1 ck a q 0 kg 3 3ff u e9 2 1 c 1 6 4 0 6 0 3 1 5i 1r ek 1 5e w 309 3 2z 1 14kl
    f g d r3 0 6a 0 38a 0 1138 19 2 m f4 2 h 7 2 6 u 3 h45u 6n"

def inscriptionalPahlaviTable : String :=
    "1gtc i 5 7"

def inscriptionalParthianTable : String :=
    "1gsg l 2 7"

def javaneseTable : String :=
    "xhc 25 2 9 4 1"

def kaithiTable : String :=
    "1hts 1u a 0"

def kannadaTable : String :=
    "2gw c 1 2 1 m 1 9 1 4 2 8 1 2 1 3 7 1 6 1 1 3 2 9 1 2"

def katakanaTable : String :=
    "9lt 2h 2 2 6o f 5s 1a 1 2f 14b2 9 1 18 ytu 3 1 6 1 1 1 0 7z 2 1e 0 e 3"

def kawiTable : String :=
    "1kow g 1 14 3 s"

def kayahLiTable : String :=
    "xds 19 1 0"

def kharoshthiTable : String :=
    "1gjk 3 1 1 5 7 1 2 1 s 2 2 4 9 7 8"

def khitanSmallScriptTable : String :=
    "20o4 0 5cr d1 15 0"

def khmerTable : String :=
    "4n4 2l 2 9 6 9 di v"

def khojkiTable : String :=
    "1i4g h 1 1a"

def khudawadiTable : String :=
    "1i9c 1m 5 9"

def kiratRaiTable : String :=
    "205c 1l"

def laoTable : String :=
    "2v5 1 1 0 1 4 1 n 1 0 1 m 2 4 1 0 1 6 1 9 2 3"

def latinTable : String :=
    "1t p 6 p 1b 0 f 0 5 m 1 u 1 cg 13 4 55n 11 6 1c 5 3 5 c 1 1x 1t 73 a9 0 d 0 g c 3x 1 6
    0 r 0 h 14 253 v o82 2t 3 1u 2 1 1 0 1 7 l d mo 16 1 8 1 3 fpy 6 t6 p 6 p 1lx 5 1 15 1
    8 16it u 6 5"

def lepchaTable : String :=
    "5j4 1j 3 e 3 2"

def limbuTable : String :=
    "4xs u 1 b 4 b 4 0 3 b"

def linearATable : String :=
    "1fr4 8m 9 l a 7"

def linearBTable : String :=
    "1ekg b 1 p 1 i 1 1 1 e 2 d y 3e"

def lisuTable : String :=
    "wk0 1b o8g 0"

def lycianTable : String :=
    "1f28 s"

def lydianTable : String :=
    "1gdc p 5 0"

def mahajaniTable : String :=
    "1hzk 12"

def makasarTable : String :=
    "1ko0 o"

def malayalamTable : String :=
    "2kg c 1 2 1 1e 1 2 1 5 4 f 2 p"

def mandaicTable : String :=
    "1mo r 2 0"

def manichaeanTable : String :=
    "1gow 12 4 b"

def marchenTable : String :=
    "1k6o v 2 l 1 d"

def masaramGondiTable : String :=
    "1kao 6 1 1 1 17 3 0 1 1 1 8 8 9"

def medefaidrinTable : String :=
    "20cg 2i"

def meeteiMayekTable : String :=
    "xr4 m 5l 19 2 9"

def mendeKikakuiTable : String :=
    "2oe8 5g 2 f"

def meroiticCursiveTable : String :=
    "1ggw n 4 j 2 19"

def meroiticHieroglyphsTable : String :=
    "1gg0 v"

def miaoTable : String :=
    "20hs 22 4 1k 7 g"

def modiTable : String :=
    "1iww 1w b 9"

def mongolianTable : String :=
    "4qo 1 2 0 1 j 6 2g 7 16 1e45 c"

def mroTable : String :=
    "1zk0 u 1 9 4 1"

def multaniTable : String :=
    "1i80 6 1 0 1 3 1 e 1 a"

def myanmarTable : String :=
    "35s 4f u9s u 2p v le8 j"

def nabataeanTable : String :=
    "1g8w u 8 8"

def nagMundariTable : String :=
    "2nrk 15"

def nandinagariTable : String :=
    "1jmo 7 2 19 2 a"

def newTaiLueTable : String :=
    "51c 17 4 p 6 a 3 1"

def newaTable : String :=
    "1iio 2j 1 4"

def nkoTable : String :=
    "1j4 1m 2 2"

def nushuTable : String :=
    "20o1 0 cy6 az"

def nyiakengPuachueHmongTable : String :=
    "2n0g 18 3 d 2 9 4 1"

def oghamTable : String :=
    "4g0 s"

def olChikiTable : String :=
    "5lc 1b"

def olOnalTable : String :=
    "2nyo 16 4 0"

def oldHungarianTable : String :=
    "1h1c 1e d 1e 7 5"

def oldItalicTable : String :=
    "1f5s z 9 2"

def oldNorthArabianTable : String :=
    "1gn4 v"

def oldPermicTable : String :=
    "1f80 16"

def oldPersianTable : String :=
    "1fa8 z 4 d"

def oldSogdianTable : String :=
    "1hj4 13"

def oldSouthArabianTable : String :=
    "1gm8 v"

def oldTurkicTable : String :=
    "1gxs 20"

def oldUyghurTable : String :=
    "1hm8 p"

def oriyaTable : String :=
    "269 2 1 7 2 1 2 l 1 6 1 1 1 4 2 8 2 1 2 2 7 2 4 1 1 4 2 h"

def osageTable : String :=
    "1fhs z 4 z"

def osmanyaTable : String :=
    "1fgg t 2 9"

def pahawhHmongTable : String :=
    "1zpc 1x a 9 1 6 1 k 5 i"

def palmyreneTable : String :=
    "1g80 v"

def pauCinHauTable : String :=
    "1juo 1k"

def phagsPaTable : String :=
    "x8g 1j"

def phoenicianTable : String :=
    "1gcg r 3 0"

def psalterPahlaviTable : String :=
    "1gu8 h 7 3 c 6"

def rejangTable : String :=
    "xf4 z b 0"

def runicTable : String :=
    "4gw 22 3 a"

def samaritanTable : String :=
    "1kw 19 2 e"

def saurashtraTable : String :=
    "xa8 1x 8 b"

def sharadaTable : String :=
    "1i0w 2n"

def shavianTable : String :=
    "1ff4 1b"

def siddhamTable : String :=
    "1itc 1h 2 11"

def signWritingTable : String :=
    "2l8g i3 f 4 1 e"

def sinhalaTable : String :=
    "2o1 2 1 h 3 n 1 8 1 0 2 6 3 0 4 5 1 0 1 7 6 9 2 2 1fcc j"

def sogdianTable : String :=
    "1hkg 15"

def soraSompengTable : String :=
    "1hw0 o 7 9"

def soyomboTable : String :=
    "1jrk 2a"

def sundaneseTable : String :=
    "5fk 1r 74 7"

def sunuwarTable : String :=
    "1k1s x e 9"

def sylotiNagriTable : String :=
    "x6o 18"

def syriacTable : String :=
    "1ds d 1 1n 2 2 7k a"

def tagalogTable : String :=
    "4jk l 9 0"

def tagbanwaTable : String :=
    "4m8 c 1 2 1 1"

def taiLeTable : String :=
    "500 t 2 4"

def taiThamTable : String :=
    "55s 1q 1 s 2 a 6 9 6 d"

def taiVietTable : String :=
    "xog 1u o 4"

def takriTable : String :=
    "1j0g 1l 6 9"

def tamilTable : String :=
    "29u 1 1 5 3 2 1 3 3 1 1 0 1 1 3 1 3 2 3 b 4 4 3 2 1 3 2 0 6 0 e k 1ih1 1d d 0"

def tangsaTable : String :=
    "1zlc 26 1 9"

def tangutTable : String :=
    "20o0 0 v 4qf 8 lb e8 8"

def teluguTable : String :=
    "2dc c 1 2 1 m 1 f 2 8 1 2 1 3 7 1 1 2 2 0 2 3 2 9 7 8"

def thaanaTable : String :=
    "1hc 1d"

def thaiTable : String :=
    "2rl 1l 5 r"

def tibetanTable : String :=
    "2yo 1z 1 z 4 12 1 z 1 e 1 6 4 1"

def tifinaghTable : String :=
    "8xc 1j 7 1 e 0"

def tirhutaTable : String :=
    "1im8 1z 8 9"

def todhriTable : String :=
    "1fpc 1f"

def totoTable : String :=
    "2nbk u"

def tuluTigalariTable : String :=
    "1if4 9 1 0 2 0 1 11 1 9 1 0 2 0 1 3 1 9 1 1 8 1"

def ugariticTable : String :=
    "1f9c t 1 0"

def vaiTable : String :=
    "wlc 8b"

def vithkuqiTable : String :=
    "1fn4 a 1 e 1 6 1 1 1 a 1 e 1 6 1 1"

def wanchoTable : String :=
    "2ncw 1l 5 0"

def warangCitiTable : String :=
    "1jfk 2a c 0"

def yezidiTable : String :=
    "1hfk 15 1 2 2 1"

def yiTable : String :=
    "vls wc 3 1i"

def zanabazarSquareTable : String :=
    "1jpc 1z"

/-- The table of the set with a name. -/
def table? (name : String) : Option String :=
  match name with
  | "adlam" | "adlm" => some adlamTable
  | "ahom" => some ahomTable
  | "anatolianhieroglyphs" | "hluw" => some anatolianHieroglyphsTable
  | "arab" | "arabic" => some arabicTable
  | "armenian" | "armn" => some armenianTable
  | "avestan" | "avst" => some avestanTable
  | "bali" | "balinese" => some balineseTable
  | "bamu" | "bamum" => some bamumTable
  | "bass" | "bassavah" => some bassaVahTable
  | "batak" | "batk" => some batakTable
  | "beng" | "bengali" => some bengaliTable
  | "bhaiksuki" | "bhks" => some bhaiksukiTable
  | "bopo" | "bopomofo" => some bopomofoTable
  | "brah" | "brahmi" => some brahmiTable
  | "brai" | "braille" => some brailleTable
  | "bugi" | "buginese" => some bugineseTable
  | "buhd" | "buhid" => some buhidTable
  | "canadianaboriginal" | "cans" => some canadianAboriginalTable
  | "cari" | "carian" => some carianTable
  | "aghb" | "caucasianalbanian" => some caucasianAlbanianTable
  | "cakm" | "chakma" => some chakmaTable
  | "cham" => some chamTable
  | "cher" | "cherokee" => some cherokeeTable
  | "chorasmian" | "chrs" => some chorasmianTable
  | "common" | "zyyy" => some commonTable
  | "copt" | "coptic" | "qaac" => some copticTable
  | "cuneiform" | "xsux" => some cuneiformTable
  | "cprt" | "cypriot" => some cypriotTable
  | "cpmn" | "cyprominoan" => some cyproMinoanTable
  | "cyrillic" | "cyrl" => some cyrillicTable
  | "deseret" | "dsrt" => some deseretTable
  | "deva" | "devanagari" => some devanagariTable
  | "diak" | "divesakuru" => some divesAkuruTable
  | "dogr" | "dogra" => some dograTable
  | "dupl" | "duployan" => some duployanTable
  | "egyp" | "egyptianhieroglyphs" => some egyptianHieroglyphsTable
  | "elba" | "elbasan" => some elbasanTable
  | "elym" | "elymaic" => some elymaicTable
  | "ethi" | "ethiopic" => some ethiopicTable
  | "gara" | "garay" => some garayTable
  | "geor" | "georgian" => some georgianTable
  | "glag" | "glagolitic" => some glagoliticTable
  | "goth" | "gothic" => some gothicTable
  | "gran" | "grantha" => some granthaTable
  | "greek" | "grek" => some greekTable
  | "gujarati" | "gujr" => some gujaratiTable
  | "gong" | "gunjalagondi" => some gunjalaGondiTable
  | "gurmukhi" | "guru" => some gurmukhiTable
  | "gukh" | "gurungkhema" => some gurungKhemaTable
  | "han" | "hani" => some hanTable
  | "hang" | "hangul" => some hangulTable
  | "hanifirohingya" | "rohg" => some hanifiRohingyaTable
  | "hano" | "hanunoo" => some hanunooTable
  | "hatr" | "hatran" => some hatranTable
  | "hebr" | "hebrew" => some hebrewTable
  | "hira" | "hiragana" => some hiraganaTable
  | "armi" | "imperialaramaic" => some imperialAramaicTable
  | "inherited" | "qaai" | "zinh" => some inheritedTable
  | "inscriptionalpahlavi" | "phli" => some inscriptionalPahlaviTable
  | "inscriptionalparthian" | "prti" => some inscriptionalParthianTable
  | "java" | "javanese" => some javaneseTable
  | "kaithi" | "kthi" => some kaithiTable
  | "kannada" | "knda" => some kannadaTable
  | "kana" | "katakana" => some katakanaTable
  | "kawi" => some kawiTable
  | "kali" | "kayahli" => some kayahLiTable
  | "khar" | "kharoshthi" => some kharoshthiTable
  | "khitansmallscript" | "kits" => some khitanSmallScriptTable
  | "khmer" | "khmr" => some khmerTable
  | "khoj" | "khojki" => some khojkiTable
  | "khudawadi" | "sind" => some khudawadiTable
  | "kiratrai" | "krai" => some kiratRaiTable
  | "lao" | "laoo" => some laoTable
  | "latin" | "latn" => some latinTable
  | "lepc" | "lepcha" => some lepchaTable
  | "limb" | "limbu" => some limbuTable
  | "lina" | "lineara" => some linearATable
  | "linb" | "linearb" => some linearBTable
  | "lisu" => some lisuTable
  | "lyci" | "lycian" => some lycianTable
  | "lydi" | "lydian" => some lydianTable
  | "mahajani" | "mahj" => some mahajaniTable
  | "maka" | "makasar" => some makasarTable
  | "malayalam" | "mlym" => some malayalamTable
  | "mand" | "mandaic" => some mandaicTable
  | "mani" | "manichaean" => some manichaeanTable
  | "marc" | "marchen" => some marchenTable
  | "gonm" | "masaramgondi" => some masaramGondiTable
  | "medefaidrin" | "medf" => some medefaidrinTable
  | "meeteimayek" | "mtei" => some meeteiMayekTable
  | "mend" | "mendekikakui" => some mendeKikakuiTable
  | "merc" | "meroiticcursive" => some meroiticCursiveTable
  | "mero" | "meroitichieroglyphs" => some meroiticHieroglyphsTable
  | "miao" | "plrd" => some miaoTable
  | "modi" => some modiTable
  | "mong" | "mongolian" => some mongolianTable
  | "mro" | "mroo" => some mroTable
  | "mult" | "multani" => some multaniTable
  | "myanmar" | "mymr" => some myanmarTable
  | "nabataean" | "nbat" => some nabataeanTable
  | "nagm" | "nagmundari" => some nagMundariTable
  | "nand" | "nandinagari" => some nandinagariTable
  | "newtailue" | "talu" => some newTaiLueTable
  | "newa" => some newaTable
  | "nko" | "nkoo" => some nkoTable
  | "nshu" | "nushu" => some nushuTable
  | "hmnp" | "nyiakengpuachuehmong" => some nyiakengPuachueHmongTable
  | "ogam" | "ogham" => some oghamTable
  | "olchiki" | "olck" => some olChikiTable
  | "olonal" | "onao" => some olOnalTable
  | "hung" | "oldhungarian" => some oldHungarianTable
  | "ital" | "olditalic" => some oldItalicTable
  | "narb" | "oldnortharabian" => some oldNorthArabianTable
  | "oldpermic" | "perm" => some oldPermicTable
  | "oldpersian" | "xpeo" => some oldPersianTable
  | "oldsogdian" | "sogo" => some oldSogdianTable
  | "oldsoutharabian" | "sarb" => some oldSouthArabianTable
  | "oldturkic" | "orkh" => some oldTurkicTable
  | "olduyghur" | "ougr" => some oldUyghurTable
  | "oriya" | "orya" => some oriyaTable
  | "osage" | "osge" => some osageTable
  | "osma" | "osmanya" => some osmanyaTable
  | "hmng" | "pahawhhmong" => some pahawhHmongTable
  | "palm" | "palmyrene" => some palmyreneTable
  | "pauc" | "paucinhau" => some pauCinHauTable
  | "phag" | "phagspa" => some phagsPaTable
  | "phnx" | "phoenician" => some phoenicianTable
  | "phlp" | "psalterpahlavi" => some psalterPahlaviTable
  | "rejang" | "rjng" => some rejangTable
  | "runic" | "runr" => some runicTable
  | "samaritan" | "samr" => some samaritanTable
  | "saur" | "saurashtra" => some saurashtraTable
  | "sharada" | "shrd" => some sharadaTable
  | "shavian" | "shaw" => some shavianTable
  | "sidd" | "siddham" => some siddhamTable
  | "sgnw" | "signwriting" => some signWritingTable
  | "sinh" | "sinhala" => some sinhalaTable
  | "sogd" | "sogdian" => some sogdianTable
  | "sora" | "sorasompeng" => some soraSompengTable
  | "soyo" | "soyombo" => some soyomboTable
  | "sund" | "sundanese" => some sundaneseTable
  | "sunu" | "sunuwar" => some sunuwarTable
  | "sylo" | "sylotinagri" => some sylotiNagriTable
  | "syrc" | "syriac" => some syriacTable
  | "tagalog" | "tglg" => some tagalogTable
  | "tagb" | "tagbanwa" => some tagbanwaTable
  | "taile" | "tale" => some taiLeTable
  | "lana" | "taitham" => some taiThamTable
  | "taiviet" | "tavt" => some taiVietTable
  | "takr" | "takri" => some takriTable
  | "tamil" | "taml" => some tamilTable
  | "tangsa" | "tnsa" => some tangsaTable
  | "tang" | "tangut" => some tangutTable
  | "telu" | "telugu" => some teluguTable
  | "thaa" | "thaana" => some thaanaTable
  | "thai" => some thaiTable
  | "tibetan" | "tibt" => some tibetanTable
  | "tfng" | "tifinagh" => some tifinaghTable
  | "tirh" | "tirhuta" => some tirhutaTable
  | "todhri" | "todr" => some todhriTable
  | "toto" => some totoTable
  | "tulutigalari" | "tutg" => some tuluTigalariTable
  | "ugar" | "ugaritic" => some ugariticTable
  | "vai" | "vaii" => some vaiTable
  | "vith" | "vithkuqi" => some vithkuqiTable
  | "wancho" | "wcho" => some wanchoTable
  | "wara" | "warangciti" => some warangCitiTable
  | "yezi" | "yezidi" => some yezidiTable
  | "yi" | "yiii" => some yiTable
  | "zanabazarsquare" | "zanb" => some zanabazarSquareTable
  | _ => none

/-- The code points of the set with a name. -/
def named? (name : String) : Option RangeSet := (table? name).map Table.ranges

end PxeLaunch.Unicode.Script

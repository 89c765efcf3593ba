import PxeLaunch.Script.Number
import PxeLaunch.Script.Utility.Input

/-!
Utilities that show bytes in other forms: as numbers and names, and in letters that survive
everywhere.
-/

set_option autoImplicit false

namespace PxeLaunch.Script

/-! ### Bytes as numbers -/

/-- A number in some base, with zeros in front of it. -/
def digitsIn (base width n : Nat) : Chars :=
  let digits := Nat.toDigits base n
  List.replicate (width - digits.length) '0' ++ digits

/-- A form in which bytes are shown: how many make up one number, how wide that is, and how it
looks. -/
structure DumpForm where
  size : Nat
  width : Nat
  shown : Nat → Chars
  appendsText : Bool

/-- A byte as a character, or as the escape or the number that stands for it. -/
def charForm (n : Nat) : Chars :=
  match n with
  | 0 => "\\0".toList
  | 7 => "\\a".toList
  | 8 => "\\b".toList
  | 9 => "\\t".toList
  | 10 => "\\n".toList
  | 11 => "\\v".toList
  | 12 => "\\f".toList
  | 13 => "\\r".toList
  | _ => if 32 ≤ n && n < 127 then [Char.ofNat n] else digitsIn 8 3 n

/-- The names of characters that cannot be seen. -/
def hiddenNames : List String :=
  ["nul", "soh", "stx", "etx", "eot", "enq", "ack", "bel", "bs", "ht", "nl", "vt", "ff", "cr",
   "so", "si", "dle", "dc1", "dc2", "dc3", "dc4", "nak", "syn", "etb", "can", "em", "sub", "esc",
   "fs", "gs", "rs", "us", "sp"]

/-- A byte by the name of its character. -/
def nameForm (n : Nat) : Chars :=
  let n := n % 128
  match hiddenNames[n]? with
  | some name => name.toList
  | none => if n = 127 then "del".toList else [Char.ofNat n]

/-- The form that a letter calls for, with the number of bytes. -/
def DumpForm.ofLetter (letter : Char) (size : Nat) (appendsText : Bool) : DumpForm :=
  let range := Nat.pow 256 size
  let inBase (base : Nat) : DumpForm :=
    let width := (Nat.toDigits base (range - 1)).length
    ⟨size, width, digitsIn base width, appendsText⟩
  match letter with
  | 'x' => inBase 16
  | 'o' => inBase 8
  | 'u' => ⟨size, (Nat.toDigits 10 (range - 1)).length, natText, appendsText⟩
  | 'd' =>
    ⟨size, (Nat.toDigits 10 (range / 2)).length + 1,
      fun n => intText ((n : Int).bmod range), appendsText⟩
  | 'a' => ⟨1, 3, nameForm, appendsText⟩
  | _ => ⟨1, 3, charForm, appendsText⟩

/-- The forms that a text calls for: letters, each with a number of bytes. -/
def dumpForms : (fuel : Nat) → Chars → List DumpForm
  | 0, _ => []
  | _, [] => []
  | fuel + 1, letter :: rest =>
    let digits := rest.takeWhile Char.isDigit
    let rest := rest.drop digits.length
    let (size, rest) := match digits, rest with
      | [], 'C' :: more => (1, more)
      | [], 'S' :: more => (2, more)
      | [], 'I' :: more => (4, more)
      | [], 'L' :: more => (8, more)
      | [], _ => (4, rest)
      | _, _ => (natOf 10 digits, rest)
    let appendsText := rest.head? = some 'z'
    DumpForm.ofLetter letter size appendsText ::
      dumpForms fuel (if appendsText then rest.drop 1 else rest)

/-- Bytes in pieces of a size. -/
def piecesOf {α : Type} (size : Nat) : (fuel : Nat) → List α → List (List α)
  | 0, _ => []
  | _, [] => []
  | fuel + 1, xs => xs.take size :: piecesOf size fuel (xs.drop size)

/-- The number that bytes make up, the least of them first. -/
def numberOf (bytes : List Nat) : Nat := bytes.foldr (fun b n => b + 256 * n) 0

/-- How wide a block of bytes is in a form, if each number has a blank before it. -/
def DumpForm.blockWidth (f : DumpForm) (block : Nat) : Nat := (f.width + 1) * (block / f.size)

/-- A row of bytes in a form, in which a block is as wide as in all others. -/
def DumpForm.row (f : DumpForm) (full block wide : Nat) (bytes : List Nat) : Chars :=
  let cell := wide / max 1 (block / f.size)
  let numbers := (piecesOf f.size bytes.length bytes).map fun piece =>
    alignRight cell (f.shown (numberOf piece))
  let row := numbers.flatten
  if f.appendsText then
    let text := bytes.map fun n => if 32 ≤ n && n < 127 then Char.ofNat n else '.'
    let missing := (full - bytes.length) / f.size
    row ++ List.replicate (missing * cell) ' ' ++ "  >".toList ++ text ++ ['<']
  else row

/-- Rows with their places. Rows like the one before them are left out. -/
def dumpRows (place : Nat → Chars) (forms : List DumpForm) (full block wide : Nat) (all : Bool)
    (start : Nat) (last : List Nat) (starred : Bool) : List (List Nat) → List Chars
  | [] => []
  | row :: rest =>
    if !all && row = last && row.length = full then
      let more := dumpRows place forms full block wide all (start + full) last true rest
      if starred then more else ['*'] :: more
    else
      let lines := forms.zipIdx.map fun (form, i) =>
        let lead := place start
        (if i = 0 then lead else List.replicate lead.length ' ') ++ form.row full block wide row
      lines ++ dumpRows place forms full block wide all (start + row.length) row false rest

def dumpBytes : Utility :=
  withOptions "od" ⟨"abcdDoOxXiIlLsv", "AtNjwS", [("format", 't'), ("address-radix", 'A'),
    ("read-bytes", 'N'), ("skip-bytes", 'j'), ("width", 'w'), ("output-duplicates", 'v')], true⟩ 1
    fun g s =>
    let asked := g.options.flatMap fun (letter, value) =>
      match letter with
      | 't' => dumpForms value.length value
      | 'a' => [DumpForm.ofLetter 'a' 1 false]
      | 'b' => [DumpForm.ofLetter 'o' 1 false]
      | 'c' => [DumpForm.ofLetter 'c' 1 false]
      | 'd' => [DumpForm.ofLetter 'u' 2 false]
      | 'o' => [DumpForm.ofLetter 'o' 2 false]
      | 's' => [DumpForm.ofLetter 'd' 2 false]
      | 'i' => [DumpForm.ofLetter 'd' 4 false]
      | 'l' => [DumpForm.ofLetter 'd' 8 false]
      | 'x' => [DumpForm.ofLetter 'x' 2 false]
      | 'X' => [DumpForm.ofLetter 'x' 4 false]
      | _ => []
    let forms := if asked.isEmpty then [DumpForm.ofLetter 'o' 2 false] else asked
    let (found, s) := s.inputs (.quoting "od" 1) g.operands
    let bytes := (found.flatMap (·.content)).map Char.toNat
    let skipped := ((g.value? 'j').bind sizeOf?).getD 0
    let bytes := bytes.drop skipped
    let bytes := match (g.value? 'N').bind sizeOf? with
      | some n => bytes.take n
      | none => bytes
    let full := max 1 (((g.value? 'w').bind sizeOf?).getD 16)
    let block := (forms.map (·.size)).foldl max 1
    let wide := (forms.map (·.blockWidth block)).foldl max 0
    let place (n : Nat) : Chars := match g.value? 'A' with
      | some ['n'] => []
      | some ['d'] => paddedPlace 10 n
      | some ['x'] => digitsIn 16 6 n
      | _ => paddedPlace 8 n
    let rows := piecesOf full bytes.length bytes
    let shown := unlines (dumpRows place forms full block wide (g.has 'v') skipped [] false rows)
    let last := place (skipped + bytes.length)
    if found.isEmpty then s else s.put (shown ++ if last.isEmpty then [] else last ++ ['\n'])
where
  paddedPlace (base n : Nat) : Chars := digitsIn base 7 n

/-! ### Bytes in letters -/

/-- The letters of the numbers below sixty-four. -/
def sixBitLetters : Chars :=
  "ABCDEFGHIJKLMNOPQRSTUVWXYZabcdefghijklmnopqrstuvwxyz0123456789+/".toList

def sixBitLetter (n : Nat) : Char := sixBitLetters.getD (n % 64) '='

/-- Bytes in letters, four for every three of them. -/
def inLetters : List Nat → Chars
  | [] => []
  | [a] => [sixBitLetter (a / 4), sixBitLetter (a * 16), '=', '=']
  | [a, b] => [sixBitLetter (a / 4), sixBitLetter (a * 16 + b / 16), sixBitLetter (b * 4), '=']
  | a :: b :: c :: rest =>
    sixBitLetter (a / 4) :: sixBitLetter (a * 16 + b / 16) :: sixBitLetter (b * 4 + c / 64) ::
      sixBitLetter c :: inLetters rest

/-- The bytes that letters stand for, and whether all of them stand for some. -/
def fromLetters : Chars → Chars × Bool
  | [] => ([], true)
  | [a, b, '=', '='] =>
    match number? a, number? b with
    | some a, some b => ([byte (a * 4 + b / 16)], true)
    | _, _ => ([], false)
  | [a, b, c, '='] =>
    match number? a, number? b, number? c with
    | some a, some b, some c => ([byte (a * 4 + b / 16), byte (b * 16 + c / 4)], true)
    | _, _, _ => ([], false)
  | a :: b :: c :: d :: rest =>
    match number? a, number? b, number? c, number? d with
    | some a, some b, some c, some d =>
      let (more, isWhole) := fromLetters rest
      (byte (a * 4 + b / 16) :: byte (b * 16 + c / 4) :: byte (c * 64 + d) :: more, isWhole)
    | some a, some b, some c, none => ([byte (a * 4 + b / 16), byte (b * 16 + c / 4)], false)
    | some a, some b, none, _ => ([byte (a * 4 + b / 16)], false)
    | _, _, _, _ => ([], false)
  | [a, b, c] =>
    match number? a, number? b, number? c with
    | some a, some b, some c => ([byte (a * 4 + b / 16), byte (b * 16 + c / 4)], false)
    | some a, some b, none => ([byte (a * 4 + b / 16)], false)
    | _, _, _ => ([], false)
  | [a, b] =>
    match number? a, number? b with
    | some a, some b => ([byte (a * 4 + b / 16)], false)
    | _, _ => ([], false)
  | [_] => ([], false)
where
  number? (c : Char) : Option Nat := sixBitLetters.findIdx? (· = c)
  byte (n : Nat) : Char := Char.ofNat (n % 256)

def showLetters : Utility :=
  withOptions "base64" ⟨"di", "w", [("decode", 'd'), ("wrap", 'w'), ("ignore-garbage", 'i')],
    true⟩ 1 fun g s =>
    match g.operands with
    | _ :: extra :: _ => extraOperand "base64" extra s
    | _ =>
      let (found, s) := s.inputs (.quoting "base64" 1) g.operands
      let text := found.flatMap (·.content)
      if found.isEmpty then s
      else if g.has 'd' then
        let letters := text.filter fun c =>
          c != '\n' && (!g.has 'i' || sixBitLetters.contains c || c = '=')
        let (bytes, isWhole) := fromLetters letters
        let s := s.put bytes
        if isWhole then s else blame "base64" "invalid input".toList 1 s
      else
        let letters := inLetters (text.map Char.toNat)
        let width := ((g.value? 'w').map (natOf 10)).getD 76
        if width = 0 then s.put letters
        else s.put (unlines (piecesOf width letters.length letters))

end PxeLaunch.Script

import PxeLaunch.Script.Utility.Input

/-!
Sorting lines. Lines are compared by keys, each in its own way; lines whose keys are the same are
compared as a whole, unless they are to stay in their order.
-/

set_option autoImplicit false

namespace PxeLaunch.Script

/-- The order of texts is that of their first difference; a beginning comes first. -/
def compareChars : Chars → Chars → Ordering
  | [], [] => .eq
  | [], _ :: _ => .lt
  | _ :: _, [] => .gt
  | a :: as, b :: bs => if a < b then .lt else if b < a then .gt else compareChars as bs

/-- A number with its decimals: the number that its digits make up, and how many of them are
decimals. -/
structure Decimal where
  digits : Int
  places : Nat

def Decimal.compare (a b : Decimal) : Ordering :=
  let x := a.digits * Nat.pow 10 b.places
  let y := b.digits * Nat.pow 10 a.places
  if x < y then .lt else if y < x then .gt else .eq

/-- The decimal number at the front of a text, and what follows it. -/
def Decimal.atFront (cs : Chars) : Decimal × Chars :=
  let cs := cs.dropWhile isBlank
  let (sign, body) : Int × Chars := match cs with
    | '-' :: rest => (-1, rest)
    | _ => (1, cs)
  let whole := body.takeWhile Char.isDigit
  let rest := body.drop whole.length
  let places := match rest with
    | '.' :: ds => ds.takeWhile Char.isDigit
    | _ => []
  let rest := match rest with
    | '.' :: ds => ds.drop places.length
    | _ => rest
  (⟨sign * natOf 10 (whole ++ places), places.length⟩, rest)

/-- The number that a text begins with, which may have a power of ten. -/
def Decimal.withPower (cs : Chars) : Decimal :=
  let (d, rest) := Decimal.atFront cs
  match rest with
  | e :: more =>
    let (sign, ds) := signed more
    let power := natOf 10 (ds.takeWhile Char.isDigit)
    if e != 'e' && e != 'E' then d
    else if sign = 1 then ⟨d.digits * Nat.pow 10 (min power 400), d.places⟩
    else ⟨d.digits, d.places + min power 400⟩
  | [] => d

/-- The order of texts in which numbers count as such. -/
def compareVersions : (fuel : Nat) → Chars → Chars → Ordering
  | 0, a, b => compareChars a b
  | fuel + 1, a, b =>
    match a, b with
    | [], [] => .eq
    | [], _ :: _ => .lt
    | _ :: _, [] => .gt
    | c :: as, d :: bs =>
      if c.isDigit && d.isDigit then
        let m := a.takeWhile Char.isDigit
        let n := b.takeWhile Char.isDigit
        (compare (natOf 10 m) (natOf 10 n)).then
          (compareVersions fuel (a.drop m.length) (b.drop n.length))
      else if c = d then compareVersions fuel as bs
      else compareChars [c] [d]

/-- The number of the month that a text begins with. -/
def monthOf (cs : Chars) : Nat :=
  let name := String.ofList (((cs.dropWhile isBlank).take 3).map Char.toUpper)
  (["JAN", "FEB", "MAR", "APR", "MAY", "JUN", "JUL", "AUG", "SEP", "OCT", "NOV",
    "DEC"].findIdx? (· == name)).elim 0 (· + 1)

/-- The rank of the unit after a number. -/
def unitRank (cs : Chars) : Nat :=
  match cs with
  | c :: _ => ("KMGTPEZY".toList.findIdx? (· == c.toUpper)).elim 0 (· + 1)
  | [] => 0

/-- How keys are compared. -/
def compareBy (ways : Chars) (a b : Chars) : Ordering :=
  let a := if ways.contains 'b' then a.dropWhile isBlank else a
  let b := if ways.contains 'b' then b.dropWhile isBlank else b
  let order :=
    if ways.contains 'n' then (Decimal.atFront a).1.compare (Decimal.atFront b).1
    else if ways.contains 'g' then (Decimal.withPower a).compare (Decimal.withPower b)
    else if ways.contains 'h' then
      let (m, p) := Decimal.atFront a
      let (n, q) := Decimal.atFront b
      let signed (d : Decimal) (unit : Nat) : Int := if d.digits < 0 then -(unit : Int) else unit
      (compare (signed m (unitRank p)) (signed n (unitRank q))).then (m.compare n)
    else if ways.contains 'V' then compareVersions (a.length + 1) a b
    else if ways.contains 'M' then compare (monthOf a) (monthOf b)
    else
      let kept (cs : Chars) : Chars :=
        let cs := if ways.contains 'd' then cs.filter fun c => c.isAlphanum || isBlank c else cs
        let cs := if ways.contains 'i' then cs.filter fun c => isGraph c || c = ' ' else cs
        if ways.contains 'f' then cs.map Char.toUpper else cs
      compareChars (kept a) (kept b)
  if ways.contains 'r' then order.swap else order

/-- A place in a line: a field and a character in it, both counted from one. -/
structure Mark where
  field : Nat
  char : Nat
  blanks : Bool

/-- What lines are compared by: from one place to another, in some ways. -/
structure SortKey where
  start : Mark
  stop : Option Mark
  ways : Chars

/-- The places at which fields begin and end, if they are cut at a character, or before blanks. -/
def fieldBounds (cut : Option Char) (line : Chars) : List (Nat × Nat) :=
  match cut with
  | some c =>
    let pieces := line.splitOn c
    (pieces.foldl (fun (found, place) piece =>
      (found ++ [(place, place + piece.length)], place + piece.length + 1))
      (([] : List (Nat × Nat)), 0)).1
  | none =>
    let pieces := line.splitBy fun a b => isBlank a || !isBlank b
    (pieces.foldl (fun (found, place) piece =>
      (found ++ [(place, place + piece.length)], place + piece.length))
      (([] : List (Nat × Nat)), 0)).1

/-- The part of a line that a key is about. -/
def SortKey.part (k : SortKey) (cut : Option Char) (line : Chars) : Chars :=
  let bounds := fieldBounds cut line
  let skipBlanks (from_ : Nat) (asked : Bool) : Nat :=
    if asked then from_ + ((line.drop from_).takeWhile isBlank).length else from_
  let start := match bounds[k.start.field - 1]? with
    | some (start, _) => skipBlanks start k.start.blanks + (k.start.char - 1)
    | none => line.length
  let stop := match k.stop with
    | none => line.length
    | some m =>
      match bounds[m.field - 1]? with
      | some (start, stop) => if m.char = 0 then stop else skipBlanks start m.blanks + m.char
      | none => line.length
  (line.drop start).take (stop - start)

/-- A place as it is written, and the ways after it. -/
def markOf? (start : Bool) (cs : Chars) : Option (Mark × Chars) :=
  let field := cs.takeWhile Char.isDigit
  let rest := cs.drop field.length
  let char := match rest with
    | '.' :: ds => ds.takeWhile Char.isDigit
    | _ => []
  let ways := match rest with
    | '.' :: ds => ds.drop char.length
    | _ => rest
  if field.isEmpty then none
  else
    let usual := if start then 1 else 0
    let n := if char.isEmpty then usual else natOf 10 char
    some (⟨natOf 10 field, n, ways.contains 'b'⟩, ways.filter (· != 'b'))

/-- A key as it is written. -/
def SortKey.ofText? (cs : Chars) : Option SortKey := do
  let first := cs.takeWhile (· != ',')
  let (start, ways) ← markOf? true first
  if first.length < cs.length then
    let (stop, more) ← markOf? false (cs.drop (first.length + 1))
    return ⟨start, some stop, ways ++ more⟩
  else return ⟨start, none, ways⟩

/-- How lines are sorted. -/
structure Sorting where
  keys : List SortKey
  ways : Chars
  cut : Option Char
  keepsOrder : Bool

/-- The order of lines by their keys. -/
def Sorting.compareKeys (o : Sorting) (a b : Chars) : Ordering :=
  if o.keys.isEmpty then compareBy o.ways a b
  else o.keys.foldl (fun order k =>
    order.then (
      let inherits := k.ways.isEmpty && !k.start.blanks
      let ways := if inherits then o.ways else k.ways
      let k := if inherits && o.ways.contains 'b' then
        { k with start := { k.start with blanks := true } } else k
      compareBy (ways.filter (· != 'b')) (k.part o.cut a) (k.part o.cut b))) .eq

/-- The order of lines. -/
def Sorting.compare (o : Sorting) (a b : Chars) : Ordering :=
  (o.compareKeys a b).then
    (if o.keepsOrder then .eq
    else if o.ways.contains 'r' then compareChars b a else compareChars a b)

/-- Lines without those that are the same as the one before them. -/
def Sorting.unique (o : Sorting) (lines : List Chars) : List Chars :=
  (lines.foldl (fun found line =>
    match found with
    | last :: _ => if o.compareKeys last line = .eq then found else line :: found
    | [] => [line]) []).reverse

/-- The first line that is out of order, and its number. -/
def Sorting.disorder? (o : Sorting) (strict : Bool) : Nat → List Chars → Option (Nat × Chars)
  | n, a :: b :: rest =>
    let order := if strict then o.compareKeys a b else o.compare a b
    if order = .gt || strict && order = .eq then some (n + 1, b)
    else o.disorder? strict (n + 1) (b :: rest)
  | _, _ => none

def sortLines : Utility :=
  withOptions "sort" ⟨"bdfgiMhnRrVcCmsuz", "kotST", [("reverse", 'r'), ("numeric-sort", 'n'),
    ("unique", 'u'), ("key", 'k'), ("field-separator", 't'), ("ignore-case", 'f'),
    ("version-sort", 'V'), ("human-numeric-sort", 'h'), ("stable", 's'), ("output", 'o'),
    ("ignore-leading-blanks", 'b'), ("general-numeric-sort", 'g'), ("check", 'c'),
    ("zero-terminated", 'z')], true⟩ 2 fun g s =>
    let ways := (g.options.map (·.1)).filter fun c => "bdfgiMhnrV".toList.contains c
    let cut := (g.value? 't').getD []
    let texts := g.values 'k'
    let keys := texts.filterMap SortKey.ofText?
    if 1 < cut.length && cut != "\\0".toList then
      blame "sort" ("multi-character tab ".toList ++ quotedName cut) 2 s
    else match texts.find? fun t => (SortKey.ofText? t).all (·.start.field = 0) with
      | some t =>
        let digits := t.takeWhile Char.isDigit
        let cause := if digits.isEmpty then
            "invalid number at field start: invalid count at start of ".toList
          else "field number is zero: invalid field specification ".toList
        blame "sort" (cause ++ quotedName t) 2 s
      | none =>
        let unique := g.has 'u'
        let o : Sorting := ⟨keys, ways, cut.head?, g.has 's' || unique⟩
        let (inputs, s) := s.inputs
          ⟨"sort", ("cannot read: ".toList ++ ·), ("read failed: ".toList ++ ·), 2⟩ g.operands
        if s.status != 0 then s
        else
          let mark := if g.has 'z' then Char.ofNat 0 else '\n'
          let lines := inputs.flatMap fun input =>
            let pieces := input.content.splitOn mark
            if pieces.getLast? = some [] then pieces.dropLast else pieces
          if g.has 'c' || g.has 'C' then
            match o.disorder? unique 1 lines with
            | none => s.answer 0
            | some (n, line) =>
              if g.has 'C' then s.answer 1
              else
                let name := g.operands.headD ['-']
                blame "sort" (name ++ [':'] ++ natText n ++ ": disorder: ".toList ++ line) 1 s
          else
            let sorted := lines.mergeSort fun a b => o.compare a b != .gt
            let shown := (if unique then o.unique sorted else sorted).flatMap (· ++ [mark])
            match g.value? 'o' with
            | none => s.put shown
            | some path =>
              match s.writeFile path shown with
              | .ok s => s
              | .error e =>
                blame "sort" ("open failed: ".toList ++ nameInErrors path ++ ": ".toList ++
                  Shell.reason e) 2 s

end PxeLaunch.Script

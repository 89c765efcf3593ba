/-!
Dates and times of day: their notation, and the one text that each of them has. Fractions of a
second are kept to nine places.
-/

set_option autoImplicit false

namespace PxeLaunch.Toml

structure Date where
  year : Nat
  month : Nat
  day : Nat
  deriving Repr, DecidableEq

structure TimeOfDay where
  hour : Nat
  minute : Nat
  second : Nat
  nanosecond : Nat
  deriving Repr, DecidableEq

/-- The distance from universal time. -/
inductive Offset where
  | universal
  | minutes (n : Int)
  deriving Repr, DecidableEq

/-- A date, a time, or both, the latter perhaps with an offset. -/
inductive Datetime where
  | date (d : Date)
  | time (t : TimeOfDay)
  | both (d : Date) (t : TimeOfDay) (offset : Option Offset)
  deriving Repr, DecidableEq

/-! ### Texts -/

/-- A number with leading zeros up to a width. -/
def padded (width n : Nat) : String :=
  let digits := Nat.toDigits 10 n
  String.ofList (List.replicate (width - digits.length) '0' ++ digits)

def Date.text (d : Date) : String :=
  s!"{padded 4 d.year}-{padded 2 d.month}-{padded 2 d.day}"

/-- The fraction of a second without the zeros at its end. -/
def fractionText (nanosecond : Nat) : String :=
  if nanosecond = 0 then ""
  else
    "." ++ String.ofList ((padded 9 nanosecond).toList.reverse.dropWhile (· = '0')).reverse

def TimeOfDay.text (t : TimeOfDay) : String :=
  s!"{padded 2 t.hour}:{padded 2 t.minute}:{padded 2 t.second}" ++ fractionText t.nanosecond

def Offset.text : Offset → String
  | .universal => "Z"
  | .minutes n =>
    let sign := if n < 0 then "-" else "+"
    sign ++ padded 2 (n.natAbs / 60) ++ ":" ++ padded 2 (n.natAbs % 60)

def Datetime.text : Datetime → String
  | .date d => d.text
  | .time t => t.text
  | .both d t offset => d.text ++ "T" ++ t.text ++ ((offset.map Offset.text).getD "")

/-! ### Notation -/

namespace Datetime

def digitValue (c : Char) : Nat := c.toNat - '0'.toNat

/-- A number of exactly two digits. -/
def twoDigits? : List Char → Option (Nat × List Char)
  | a :: b :: rest =>
    if a.isDigit && b.isDigit then some (digitValue a * 10 + digitValue b, rest) else none
  | _ => none

/-- Steps over a character. -/
def mark? (c : Char) : List Char → Option (List Char)
  | d :: rest => if d = c then some rest else none
  | [] => none

def daysIn (year month : Nat) : Nat :=
  if month = 2 then
    if year % 4 = 0 && (year % 100 != 0 || year % 400 = 0) then 29 else 28
  else if month ∈ [4, 6, 9, 11] then 30 else 31

/-- A date that the calendar has. -/
def date? (cs : List Char) : Option (Date × List Char) := do
  let (century, cs) ← twoDigits? cs
  let (rest, cs) ← twoDigits? cs
  let (month, cs) ← twoDigits? (← mark? '-' cs)
  let (day, cs) ← twoDigits? (← mark? '-' cs)
  let year := century * 100 + rest
  if 1 ≤ month && month ≤ 12 && 1 ≤ day && day ≤ daysIn year month then
    some (⟨year, month, day⟩, cs)
  else none

/-- The nanoseconds that the digits of a fraction stand for. Digits past the ninth are cut off. -/
def nanoseconds (digits : List Char) : Nat :=
  let kept := digits.take 9
  (kept ++ List.replicate (9 - kept.length) '0').foldl (fun n c => n * 10 + digitValue c) 0

/-- A time of day, with a fraction of a second or without. -/
def time? (cs : List Char) : Option (TimeOfDay × List Char) := do
  let (hour, cs) ← twoDigits? cs
  let (minute, cs) ← twoDigits? (← mark? ':' cs)
  let (second, cs) ← twoDigits? (← mark? ':' cs)
  if 23 < hour || 59 < minute || 60 < second then none
  else match cs with
    | '.' :: fraction =>
      let digits := fraction.takeWhile Char.isDigit
      if digits.isEmpty then none
      else some (⟨hour, minute, second, nanoseconds digits⟩, fraction.dropWhile Char.isDigit)
    | _ => some (⟨hour, minute, second, 0⟩, cs)

/-- The distance from universal time, or nothing. -/
def offset? : List Char → Option (Option Offset)
  | [] => some none
  | [c] => if c = 'Z' || c = 'z' then some (some .universal) else none
  | c :: rest => do
    let (hour, after) ← twoDigits? rest
    let (minute, after) ← twoDigits? (← mark? ':' after)
    if !after.isEmpty || 23 < hour || 59 < minute then none
    else
      let n : Int := hour * 60 + minute
      match c with
      | '+' => some (some (.minutes n))
      | '-' => some (some (.minutes (-n)))
      | _ => none

/-- The date, the time, or both that a whole text writes down. -/
def ofChars? (cs : List Char) : Option Datetime :=
  match date? cs with
  | some (d, []) => some (.date d)
  | some (d, c :: rest) =>
    if c = 'T' || c = 't' || c = ' ' then
      match time? rest with
      | some (t, after) => (offset? after).map (.both d t)
      | none => none
    else none
  | none =>
    match time? cs with
    | some (t, []) => some (.time t)
    | _ => none

end Datetime

end PxeLaunch.Toml

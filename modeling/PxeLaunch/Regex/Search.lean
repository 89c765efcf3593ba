import PxeLaunch.Regex.Program
import PxeLaunch.Text.Utf8
import PxeLaunch.Unicode.Property

/-!
Searching a byte string. All ways of matching advance together, one byte at a time, in order of
preference: an earlier start before a later one, then the branch named first. A place of the program
that a preferred way has reached is not entered again at the same position, so a step takes time in
proportion to the program.
-/

set_option autoImplicit false

namespace PxeLaunch.Regex

open PxeLaunch.Unicode (RangeSet)

/-! ### Conditions on positions -/

/-- A position in a byte string: the bytes before it, nearest first, and the bytes after it. -/
structure Position where
  before : Bytes
  after : Bytes

namespace Position

def isWordByte (b : UInt8) : Bool :=
  (48 ≤ b && b ≤ 57) || (65 ≤ b && b ≤ 90) || b = 95 || (97 ≤ b && b ≤ 122)

def isWordChar (c : Char) : Bool :=
  if c.toNat < 0x80 then isWordByte c.toNat.toUInt8
  else Unicode.Property.word.contains c.toNat

/-- The bytes of the character that ends here: at most four, back to one that may begin a character.
-/
def lastCharBytes (found : Bytes) : Nat → Bytes → Bytes
  | _, [] => found
  | 0, b :: _ => b :: found
  | n + 1, b :: rest =>
    if 0x80 ≤ b && b ≤ 0xBF then lastCharBytes (b :: found) n rest else b :: found

/-- The character before the position; `none` stands for the start of the text. -/
def charBefore (p : Position) : Option (Option Char) :=
  match p.before with
  | [] => none
  | _ => some ((Utf8.first? (lastCharBytes [] 3 p.before)).map (·.1))

/-- The character after the position; `none` stands for the end of the text. -/
def charAfter (p : Position) : Option (Option Char) :=
  match p.after with
  | [] => none
  | _ => some ((Utf8.first? p.after).map (·.1))

/-- Whether a word character stands on one side; bytes that are no character belong to no word. -/
def isWordSide : Option (Option Char) → Bool
  | some (some c) => isWordChar c
  | _ => false

/-- Whether a side is broken by bytes that are no character. -/
def isBroken : Option (Option Char) → Bool
  | some none => true
  | _ => false

def wordBefore (p : Position) (unicode : Bool) : Bool :=
  if unicode then isWordSide p.charBefore else (p.before.head?.map isWordByte).getD false

def wordAfter (p : Position) (unicode : Bool) : Bool :=
  if unicode then isWordSide p.charAfter else (p.after.head?.map isWordByte).getD false

/-- Whether a condition holds at a position. The conditions that no word character be there do not
hold next to bytes that are no character. -/
def satisfies (p : Position) : Look → Bool
  | .textStart => p.before.isEmpty
  | .textEnd => p.after.isEmpty
  | .lineStart => p.before.isEmpty || p.before.head? == some 10
  | .lineEnd => p.after.isEmpty || p.after.head? == some 10
  | .crlfLineStart =>
    p.before.isEmpty || p.before.head? == some 10 ||
      (p.before.head? == some 13 && p.after.head? != some 10)
  | .crlfLineEnd =>
    p.after.isEmpty || p.after.head? == some 13 ||
      (p.after.head? == some 10 && p.before.head? != some 13)
  | .wordBoundary u => p.wordBefore u != p.wordAfter u
  | .notWordBoundary u =>
    !(u && (isBroken p.charBefore || isBroken p.charAfter)) && p.wordBefore u == p.wordAfter u
  | .wordStart u => !p.wordBefore u && p.wordAfter u
  | .wordEnd u => p.wordBefore u && !p.wordAfter u
  | .wordStartHalf u => !(u && isBroken p.charBefore) && !p.wordBefore u
  | .wordEndHalf u => !(u && isBroken p.charAfter) && !p.wordAfter u

end Position

/-! ### Threads -/

/-- Where the slots of a match were passed, latest first. -/
abbrev Slots := List (Nat × Nat)

/-- A way of matching: the next instruction, how many bytes of the character read last are still to
come, and the slots passed. -/
structure Thread where
  pc : Nat
  skip : Nat
  slots : Slots

/-- The ways that are alive at a position, the preferred one last, and for each instruction whether
it has been entered. -/
structure Frontier where
  entered : Array Bool
  threads : List Thread

/-- No way is alive. -/
def Frontier.none (code : Array Instruction) : Frontier := ⟨Array.replicate code.size false, []⟩

/-- Follows the instructions that read nothing, depth first, the preferred branch before the other.
The fuel bounds the number of instructions entered and choices put off. -/
def Frontier.follow (code : Array Instruction) (p : Position) (offset : Nat) :
    (fuel : Nat) → List (Nat × Slots) → Frontier → Frontier
  | 0, _, f => f
  | _, [], f => f
  | fuel + 1, (pc, slots) :: rest, ⟨entered, threads⟩ =>
    if entered.getD pc true then follow code p offset fuel rest ⟨entered, threads⟩
    else
      let entered := entered.setIfInBounds pc true
      match code[pc]? with
      | .none => follow code p offset fuel rest ⟨entered, threads⟩
      | some (.jump target) =>
        follow code p offset fuel ((target, slots) :: rest) ⟨entered, threads⟩
      | some (.split first second) =>
        follow code p offset fuel ((first, slots) :: (second, slots) :: rest) ⟨entered, threads⟩
      | some (.save slot) =>
        follow code p offset fuel ((pc + 1, (slot, offset) :: slots) :: rest) ⟨entered, threads⟩
      | some (.look l) =>
        if p.satisfies l then
          follow code p offset fuel ((pc + 1, slots) :: rest) ⟨entered, threads⟩
        else follow code p offset fuel rest ⟨entered, threads⟩
      | some _ => follow code p offset fuel rest ⟨entered, ⟨pc, 0, slots⟩ :: threads⟩

/-- Enters an instruction at a position. -/
def Frontier.enter (code : Array Instruction) (p : Position) (offset pc : Nat) (slots : Slots)
    (f : Frontier) : Frontier :=
  f.follow code p offset (2 * code.size + 2) [(pc, slots)]

/-- Adds a way that waits for the rest of a character. -/
def Frontier.wait (f : Frontier) (t : Thread) : Frontier :=
  if f.threads.any fun u => u.pc == t.pc && u.skip == t.skip && t.skip != 0 then f
  else { f with threads := t :: f.threads }

/-- Advances the ways in order of preference over the byte at the front of `after`. A way that has
finished ends the step: the ways behind it are given up, and it is the best one so far. -/
def step (code : Array Instruction) (p : Position) (next : Position) (offset : Nat) :
    List Thread → Frontier → Frontier × Option Slots
  | [], f => (f, none)
  | t :: rest, f =>
    match t.skip with
    | 0 =>
      match code[t.pc]? with
      | some .accept => (f, some t.slots)
      | some (.byte set) =>
        match p.after with
        | b :: _ =>
          if set.contains b.toNat then
            step code p next offset rest (f.enter code next (offset + 1) (t.pc + 1) t.slots)
          else step code p next offset rest f
        | [] => step code p next offset rest f
      | some (.char set) =>
        match Utf8.first? p.after with
        | some (c, size) =>
          if set.contains c.toNat then
            if size = 1 then
              step code p next offset rest (f.enter code next (offset + 1) (t.pc + 1) t.slots)
            else step code p next offset rest (f.wait ⟨t.pc + 1, size - 1, t.slots⟩)
          else step code p next offset rest f
        | none => step code p next offset rest f
      | _ => step code p next offset rest f
    | 1 => step code p next offset rest (f.enter code next (offset + 1) t.pc t.slots)
    | n + 2 => step code p next offset rest (f.wait ⟨t.pc, n + 1, t.slots⟩)

/-- The best of the ways that have finished when the input has ended. -/
def finished (code : Array Instruction) (threads : List Thread) : Option Slots :=
  (threads.find? fun t => t.skip == 0 && code[t.pc]? == some .accept).map (·.slots)

/-- Advances all ways to the end of the input. While nothing has been found, a new way starts at
every position that is not inside a character, or, if `startsInside` is set, at every position. -/
def run (code : Array Instruction) (startsInside : Bool) (best : Option Slots) (before : Bytes)
    (offset : Nat) (f : Frontier) : Bytes → Option Slots
  | [] =>
    let p : Position := ⟨before, []⟩
    let g := if best.isNone then f.enter code p offset 0 [] else f
    finished code g.threads.reverse <|> best
  | b :: rest =>
    let p : Position := ⟨before, b :: rest⟩
    let starts := best.isNone && (startsInside || !Utf8.isContinuation b)
    let g := if starts then f.enter code p offset 0 [] else f
    if g.threads.isEmpty && best.isSome then best
    else
      let next : Position := ⟨b :: before, rest⟩
      let (h, found) := step code p next offset g.threads.reverse (.none code)
      run code startsInside (found <|> best) (b :: before) (offset + 1) h rest

/-- The slots of the leftmost match that is preferred among those with its start. -/
def search (program : Program) (startsInside : Bool) (text : Bytes) : Option Slots :=
  run program.code startsInside none [] 0 (.none program.code) text

end PxeLaunch.Regex

import PxeLaunch.Host.Failure
import PxeLaunch.Noise.Filter

/-!
Streams of console output. Bytes arrive in windows, with silence between them, and are cut into
chunks: a chunk ends after a newline, after as many bytes as a line may have at most, at the end of
the stream, and, if silence is not to hold up a prompt, when the stream has been silent for long
enough. How the bytes were spread over windows makes no difference.
-/

set_option autoImplicit false

namespace PxeLaunch.Noise

/-- Something that happens on a stream. -/
inductive Event where
  | data (window : Bytes)
  | idle (milliseconds : Nat)
  | failed (cause : Failure)
  deriving Repr, DecidableEq

/-- The most bytes that are held back for a line. -/
def maxLine : Nat := 65536

/-- What is read next from a stream. -/
inductive Reading where
  | chunk (bytes : Bytes) (rest : List Event)
  | ended
  | failed (cause : Failure) (rest : List Event)
  deriving Repr, DecidableEq

/-- The events that are left when some bytes of a window have been read. -/
def remaining (left : Bytes) (rest : List Event) : List Event :=
  if left.isEmpty then rest else .data left :: rest

/-- Whether a silence is long enough to give out a part of a line. -/
def isLongSilence (patience : Option Nat) (quiet : Nat) : Bool :=
  match patience with
  | some limit => limit ≤ quiet
  | none => false

/-- Reads on, having `line` and having heard nothing for `quiet` milliseconds. -/
def readFrom (patience : Option Nat) (line : Bytes) (quiet : Nat) : List Event → Reading
  | [] => if line.isEmpty then .ended else .chunk line []
  | .data window :: rest =>
    if window.isEmpty then readFrom patience line quiet rest
    else
      let room := maxLine - line.length
      let head := window.takeWhile (· != Bytes.newline)
      if head.length < room then
        match window.drop head.length with
        | b :: left => .chunk (line ++ head ++ [b]) (remaining left rest)
        | [] => readFrom patience (line ++ head) 0 rest
      else .chunk (line ++ head.take room) (remaining (window.drop room) rest)
  | .idle ms :: rest =>
    if !line.isEmpty && isLongSilence patience (quiet + ms) then .chunk line rest
    else readFrom patience line (quiet + ms) rest
  | .failed cause :: rest => .failed cause rest

/-- The next chunk of a stream. -/
def read (patience : Option Nat) (events : List Event) : Reading := readFrom patience [] 0 events

/-- How much there is to read. -/
def Event.weight : Event → Nat
  | .data window => window.length + 1
  | .idle _ => 1
  | .failed _ => 1

def weight : List Event → Nat
  | [] => 0
  | e :: rest => e.weight + weight rest

private theorem weight_remaining_le (left : Bytes) (rest : List Event) :
    weight (remaining left rest) ≤ left.length + 1 + weight rest := by
  unfold remaining
  split
  · omega
  · simp [weight, Event.weight]

/-- Reading takes events away and adds none. -/
theorem weight_readFrom_le {patience : Option Nat} {line : Bytes} {quiet : Nat}
    {events : List Event} {bytes : Bytes} {rest : List Event}
    (h : readFrom patience line quiet events = .chunk bytes rest) :
    weight rest + (if line.isEmpty then 1 else 0) ≤ weight events := by
  induction events generalizing line quiet with
  | nil =>
    by_cases hl : line.isEmpty <;> simp_all [readFrom, weight]
  | cons e events ih =>
    cases e with
    | data window =>
      unfold readFrom at h
      split at h
      · have := ih h
        simp only [weight] at this ⊢
        omega
      · rename_i hw
        have hpos : 0 < window.length := by
          cases window with
          | nil => simp at hw
          | cons _ _ => simp
        simp only at h
        split at h
        · split at h
          · rename_i b left hdrop
            injection h with _ hrest
            have hlen : left.length + 1 ≤ window.length := by
              have := congrArg List.length hdrop
              simp at this
              omega
            have := weight_remaining_le left events
            rw [hrest] at this
            simp only [weight, Event.weight] at this ⊢
            split <;> omega
          · have := ih h
            simp only [weight, Event.weight] at this ⊢
            split <;> omega
        · rename_i hroom
          injection h with _ hrest
          have := weight_remaining_le (window.drop (maxLine - line.length)) events
          rw [hrest] at this
          by_cases hl : line.isEmpty
          · have hnil : line.length = 0 := by simpa using hl
            simp only [weight, Event.weight, List.length_drop, hnil,
              maxLine, hl, if_true] at this ⊢
            omega
          · simp only [weight, Event.weight, List.length_drop, hl,
              Bool.false_eq_true, if_false] at this ⊢
            omega
    | idle ms =>
      unfold readFrom at h
      split at h
      · rename_i hq
        injection h with _ hrest
        have hl : line.isEmpty = false := by
          cases hb : line.isEmpty with
          | true => simp [hb] at hq
          | false => rfl
        simp [weight, Event.weight, hl, ← hrest]
      · have := ih h
        simp only [weight] at this ⊢
        omega
    | failed cause => simp [readFrom] at h

/-- Every chunk takes something away from the stream. -/
theorem weight_read_lt {patience : Option Nat} {events : List Event} {bytes : Bytes}
    {rest : List Event} (h : read patience events = .chunk bytes rest) :
    weight rest < weight events := by
  have := weight_readFrom_le h
  simp only [List.isEmpty_nil, if_true] at this
  omega

/-- Whether the byte after these begins a line. -/
def endsLine (bytes : Bytes) : Bool := bytes.getLast? == some Bytes.newline

/-- All chunks of a stream, and the failure that ended it, if one did. The first chunk begins a line
if `startsLine` is set. -/
def chunksFrom (patience : Option Nat) (startsLine : Bool) (events : List Event) :
    List Chunk × Option Failure :=
  match _h : read patience events with
  | .chunk bytes rest =>
    let (chunks, failure) := chunksFrom patience (endsLine bytes) rest
    (⟨bytes, startsLine⟩ :: chunks, failure)
  | .ended => ([], none)
  | .failed cause _ => ([], some cause)
termination_by weight events
decreasing_by exact weight_read_lt ‹_›

/-- All chunks of a stream from its start. -/
def chunks (patience : Option Nat) (events : List Event) : List Chunk × Option Failure :=
  chunksFrom patience true events

/-- Chunks as they are shown, one after another. -/
def Filter.chunks (f : Filter) (s : LineState) : List Chunk → List Bytes
  | [] => []
  | c :: rest =>
    let (out, next) := f.chunk c s
    out :: Filter.chunks f next rest

/-! ### Pumping -/

/-- What becomes of pumping a stream through a filter into a sink: the writes that the sink took,
the number of chunks or the failure, and the events that were not read. -/
structure Pumped where
  writes : List Bytes
  result : Except Failure Nat
  unread : List Event

/-- The same with one more chunk in front. -/
def Pumped.counted (p : Pumped) : Pumped := { p with result := p.result.map (· + 1) }

/-- Pumps what is left of a stream. The sink takes `budget` more writes, or any number. -/
def Filter.pumpFrom (f : Filter) (budget : Option Nat) (state : LineState) (startsLine : Bool)
    (events : List Event) : Pumped :=
  match _h : read none events with
  | .ended => ⟨[], .ok 0, []⟩
  | .failed cause rest => ⟨[], .error cause, rest⟩
  | .chunk bytes rest =>
    let (out, next) := f.chunk ⟨bytes, startsLine⟩ state
    if out.isEmpty then (pumpFrom f budget next (endsLine bytes) rest).counted
    else match budget with
      | some 0 => ⟨[], .error .brokenPipe, rest⟩
      | _ =>
        let p := (pumpFrom f (budget.map (· - 1)) next (endsLine bytes) rest).counted
        { p with writes := out :: p.writes }
termination_by weight events
decreasing_by all_goals exact weight_read_lt ‹_›

/-- Pumps a stream from its start to its end, or to the first failure of the stream or the sink. -/
def Filter.pump (f : Filter) (budget : Option Nat) (events : List Event) : Pumped :=
  f.pumpFrom budget .start true events

end PxeLaunch.Noise

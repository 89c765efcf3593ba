import PxeLaunch.Noise.Stream

/-!
What a stream says, whatever its windows are. A reader hears bytes, and a pause wherever the stream
is silent for as long as the reader is patient; it cuts what it hears into chunks. Main statement:
the chunks of a stream are the cuts of its signals, so they depend on nothing else.
-/

set_option autoImplicit false

namespace PxeLaunch.Noise

/-! ### Signals -/

/-- A byte, or a silence that is long enough to count. -/
inductive Signal where
  | byte (b : UInt8)
  | pause
  deriving Repr, DecidableEq

def Signal.bytes : List Signal → Bytes
  | [] => []
  | .byte b :: rest => b :: Signal.bytes rest
  | .pause :: rest => Signal.bytes rest

/-- The signals up to the first failure. `quiet` is the length of the silence so far; there is none
once the silence has counted. -/
def signalsFrom (patience : Option Nat) (quiet : Option Nat) : List Event → List Signal
  | [] => []
  | .data window :: rest =>
    window.map .byte ++
      signalsFrom patience (if window.isEmpty then quiet else some 0) rest
  | .idle ms :: rest =>
    match quiet with
    | none => signalsFrom patience none rest
    | some q =>
      if ∃ d ∈ patience, d ≤ q + ms then .pause :: signalsFrom patience none rest
      else signalsFrom patience (some (q + ms)) rest
  | .failed _ :: _ => []

/-- What a stream says: its bytes, and one pause for each silence that is long enough. -/
def signals (patience : Option Nat) (events : List Event) : List Signal :=
  signalsFrom patience (some 0) events

def failure? : List Event → Option Failure
  | [] => none
  | .failed cause :: _ => some cause
  | _ :: rest => failure? rest

def received : List Event → Bytes
  | [] => []
  | .data window :: rest => window ++ received rest
  | .idle _ :: rest => received rest
  | .failed _ :: _ => []

/-! ### Cutting -/

/-- Cuts signals, with `line` pending: after a newline, after as many bytes as a line may have, and
at a pause. What is pending at the end is a chunk only if the stream is complete. -/
def cutFrom (complete : Bool) (line : Bytes) : List Signal → List Bytes
  | [] => if complete && !line.isEmpty then [line] else []
  | .byte b :: rest =>
    if b = Bytes.newline || line.length + 1 = maxLine then
      (line ++ [b]) :: cutFrom complete [] rest
    else cutFrom complete (line ++ [b]) rest
  | .pause :: rest =>
    if line.isEmpty then cutFrom complete [] rest else line :: cutFrom complete [] rest

def marked (startsLine : Bool) : List Bytes → List Chunk
  | [] => []
  | bytes :: rest => ⟨bytes, startsLine⟩ :: marked (endsLine bytes) rest

/-! ### Signals and their bytes -/

@[simp] theorem Signal.bytes_append (s t : List Signal) :
    Signal.bytes (s ++ t) = Signal.bytes s ++ Signal.bytes t := by
  induction s with
  | nil => rfl
  | cons x s ih => cases x <;> simp [Signal.bytes, ih]

@[simp] theorem Signal.bytes_map_byte (bytes : Bytes) :
    Signal.bytes (bytes.map .byte) = bytes := by
  induction bytes with
  | nil => rfl
  | cons b bytes ih => simp [Signal.bytes, ih]

theorem map_byte_bytes {s : List Signal} (h : Signal.pause ∉ s) :
    (Signal.bytes s).map .byte = s := by
  induction s with
  | nil => rfl
  | cons x s ih =>
    obtain ⟨hx, hs⟩ := not_or.mp (mt List.mem_cons.mpr h)
    cases x with
    | byte b => rw [Signal.bytes, List.map_cons, ih hs]
    | pause => exact absurd rfl hx

private theorem isLongSilence_iff {patience : Option Nat} {quiet : Nat} :
    isLongSilence patience quiet = true ↔ ∃ d ∈ patience, d ≤ quiet := by
  cases patience <;> simp [isLongSilence]

private theorem signalsFrom_data_cons (patience quiet : Option Nat) (window : Bytes)
    (rest : List Event) :
    signalsFrom patience quiet (.data window :: rest) =
      window.map .byte ++ signalsFrom patience (if window.isEmpty then quiet else some 0) rest :=
  rfl

private theorem signalsFrom_none_idle_cons (patience : Option Nat) (ms : Nat) (rest : List Event) :
    signalsFrom patience none (.idle ms :: rest) = signalsFrom patience none rest := rfl

private theorem signalsFrom_some_idle_cons (patience : Option Nat) (q ms : Nat)
    (rest : List Event) :
    signalsFrom patience (some q) (.idle ms :: rest) =
      if ∃ d ∈ patience, d ≤ q + ms then .pause :: signalsFrom patience none rest
      else signalsFrom patience (some (q + ms)) rest := rfl

private theorem bytes_signalsFrom (patience quiet : Option Nat) (events : List Event) :
    Signal.bytes (signalsFrom patience quiet events) = received events := by
  induction events generalizing quiet with
  | nil => rfl
  | cons e events ih =>
    cases e with
    | data window => simp [signalsFrom_data_cons, received, ih]
    | idle ms =>
      cases quiet with
      | none => simpa [signalsFrom_none_idle_cons, received] using ih none
      | some q =>
        simp only [signalsFrom_some_idle_cons, received]
        split
        · simpa [Signal.bytes] using ih none
        · exact ih _
    | failed cause => rfl

@[simp] theorem bytes_signals (patience : Option Nat) (events : List Event) :
    Signal.bytes (signals patience events) = received events :=
  bytes_signalsFrom patience (some 0) events

theorem signalsFrom_none (quiet : Option Nat) (events : List Event) :
    signalsFrom none quiet events = (received events).map .byte := by
  induction events generalizing quiet with
  | nil => rfl
  | cons e events ih =>
    cases e with
    | data window => simp [signalsFrom_data_cons, received, ih]
    | idle ms =>
      cases quiet with
      | none => rw [signalsFrom_none_idle_cons, received, ih]
      | some q => simp [signalsFrom_some_idle_cons, received, ih]
    | failed cause => rfl

private theorem signalsFrom_data {window : Bytes} (h : window ≠ []) (patience quiet : Option Nat)
    (rest : List Event) :
    signalsFrom patience quiet (.data window :: rest) =
      window.map .byte ++ signals patience rest := by
  simp [signalsFrom_data_cons, signals, h]

private theorem signals_remaining (patience : Option Nat) (left : Bytes) (rest : List Event) :
    signals patience (remaining left rest) = left.map .byte ++ signals patience rest := by
  cases left with
  | nil => rfl
  | cons b left => exact signalsFrom_data (by simp) patience (some 0) rest

theorem failure?_remaining (left : Bytes) (rest : List Event) :
    failure? (remaining left rest) = failure? rest := by
  cases left <;> rfl

/-! ### Cuts of parts -/

theorem cutFrom_append_of_lt {head : Bytes} (hhead : Bytes.newline ∉ head) {line : Bytes}
    (hroom : line.length + head.length < maxLine) (complete : Bool) (rest : List Signal) :
    cutFrom complete line (head.map .byte ++ rest) = cutFrom complete (line ++ head) rest := by
  induction head generalizing line with
  | nil => simp
  | cons b head ih =>
    obtain ⟨hb, hhead⟩ := not_or.mp (mt List.mem_cons.mpr hhead)
    simp only [List.length_cons] at hroom
    have hshort : line.length + 1 ≠ maxLine := by omega
    have hnot : b ≠ Bytes.newline := fun h => hb h.symm
    simp only [List.map_cons, List.cons_append, cutFrom, hnot, hshort, decide_false, Bool.or_self,
      Bool.false_eq_true, if_false]
    rw [ih hhead (by simp; omega)]
    simp

theorem cutFrom_append_of_eq {head : Bytes} (hhead : Bytes.newline ∉ head) {line : Bytes}
    (hline : line.length < maxLine) (hfull : line.length + head.length = maxLine)
    (complete : Bool) (rest : List Signal) :
    cutFrom complete line (head.map .byte ++ rest) =
      (line ++ head) :: cutFrom complete [] rest := by
  have hne : head ≠ [] := by
    rintro rfl
    simp at hfull
    omega
  obtain ⟨start, b, rfl⟩ := List.eq_nil_or_concat head |>.resolve_left hne
  simp only [List.concat_eq_append, List.mem_append, not_or] at hhead
  simp only [List.concat_eq_append, List.length_append, List.length_singleton] at hfull
  have hstart : line.length + start.length < maxLine := by omega
  simp only [List.concat_eq_append, List.map_append, List.append_assoc]
  rw [cutFrom_append_of_lt hhead.1 hstart]
  have hlast : line.length + start.length + 1 = maxLine := by omega
  simp [cutFrom, hlast]

theorem cutFrom_newline {head : Bytes} (hhead : Bytes.newline ∉ head) {line : Bytes}
    (hroom : line.length + head.length < maxLine) (complete : Bool) (rest : List Signal) :
    cutFrom complete line (head.map .byte ++ .byte Bytes.newline :: rest) =
      (line ++ head ++ [Bytes.newline]) :: cutFrom complete [] rest := by
  rw [cutFrom_append_of_lt hhead hroom]
  simp [cutFrom]

/-- Before the first byte of a chunk it does not matter how long the silence has lasted. -/
private theorem cutFrom_nil_signalsFrom (complete : Bool) (patience q r : Option Nat)
    (events : List Event) :
    cutFrom complete [] (signalsFrom patience q events) =
      cutFrom complete [] (signalsFrom patience r events) := by
  -- Every silence at the front is skipped, so both sides are compared with the silence left out.
  suffices h : ∀ q, cutFrom complete [] (signalsFrom patience q events) =
      cutFrom complete [] (signalsFrom patience none events) from (h q).trans (h r).symm
  induction events with
  | nil => intro q; rfl
  | cons e events ih =>
    intro q
    cases e with
    | data window =>
      by_cases hw : window = []
      · subst hw
        simpa [signalsFrom] using ih q
      · rw [signalsFrom_data hw, signalsFrom_data hw]
    | idle ms =>
      cases q with
      | none => rfl
      | some q =>
        simp only [signalsFrom]
        split
        · simp [cutFrom]
        · exact ih _
    | failed cause => rfl

/-! ### Chunks are cuts -/

/-- What a reading says about the cuts and the failure of what is left of a stream. -/
def Reading.Agrees (patience : Option Nat) (failure : Option Failure) (cuts : List Bytes) :
    Reading → Prop
  | .chunk bytes rest =>
    cuts = bytes :: cutFrom failure.isNone [] (signals patience rest) ∧ failure? rest = failure
  | .ended => cuts = [] ∧ failure = none
  | .failed cause _ => cuts = [] ∧ failure = some cause

theorem takeWhile_newline (window : Bytes) :
    ∃ left, window = window.takeWhile (· != Bytes.newline) ++ left ∧
      Bytes.newline ∉ window.takeWhile (· != Bytes.newline) ∧
      (left = [] ∨ ∃ after, left = Bytes.newline :: after) := by
  induction window with
  | nil => exact ⟨[], by simp⟩
  | cons b window ih =>
    by_cases hb : b = Bytes.newline
    · subst hb
      exact ⟨Bytes.newline :: window, by simp⟩
    · obtain ⟨left, happend, hclean, hleft⟩ := ih
      refine ⟨left, ?_, ?_, hleft⟩
      · simpa [hb] using happend
      · simpa [hb, Ne.symm hb] using hclean

private theorem readFrom_data_agrees {window : Bytes} (hw : window ≠ []) {line : Bytes}
    (hline : line.length < maxLine) (patience q : Option Nat) (quiet : Nat) (events : List Event)
    (ih : ∀ {line : Bytes}, line.length < maxLine →
      (readFrom patience line 0 events).Agrees patience (failure? events)
        (cutFrom (failure? events).isNone line (signals patience events))) :
    (readFrom patience line quiet (.data window :: events)).Agrees patience (failure? events)
      (cutFrom (failure? events).isNone line
        (signalsFrom patience q (.data window :: events))) := by
  obtain ⟨left, happend, hclean, hleft⟩ := takeWhile_newline window
  rw [signalsFrom_data hw]
  simp only [readFrom, List.isEmpty_iff, hw, if_false]
  generalize window.takeWhile (· != Bytes.newline) = head at happend hclean ⊢
  subst happend
  simp only [List.drop_left, List.map_append, List.append_assoc]
  by_cases hroom : head.length < maxLine - line.length
  · simp only [hroom, if_true]
    have hfits : line.length + head.length < maxLine := by omega
    rcases hleft with rfl | ⟨after, rfl⟩
    · -- The window has no newline and leaves room: the line stays pending.
      have hpending : (line ++ head).length < maxLine := by simpa using hfits
      simp only [List.map_nil, List.nil_append]
      rw [cutFrom_append_of_lt hclean hfits]
      exact ih hpending
    · simp only [List.map_cons, List.cons_append, Reading.Agrees]
      rw [cutFrom_newline hclean hfits, signals_remaining, failure?_remaining, List.append_assoc]
      exact ⟨rfl, rfl⟩
  · simp only [hroom, if_false, Reading.Agrees]
    have hlong : maxLine - line.length ≤ head.length := by omega
    have hfull : line.length + (head.take (maxLine - line.length)).length = maxLine := by
      rw [List.length_take]
      omega
    have htake : Bytes.newline ∉ head.take (maxLine - line.length) := by
      intro hmem
      exact hclean (List.mem_of_mem_take hmem)
    have hcut := cutFrom_append_of_eq htake hline hfull (failure? events).isNone
      ((head.drop (maxLine - line.length) ++ left).map .byte ++ signals patience events)
    have hsplit : head.map Signal.byte = (head.take (maxLine - line.length)).map Signal.byte ++
        (head.drop (maxLine - line.length)).map Signal.byte := by
      rw [← List.map_append, List.take_append_drop]
    have hdrop : (head ++ left).drop (maxLine - line.length) =
        head.drop (maxLine - line.length) ++ left := List.drop_append_of_le_length hlong
    rw [hdrop, signals_remaining, failure?_remaining, hsplit]
    simp only [List.map_append, List.append_assoc] at hcut ⊢
    exact ⟨hcut, trivial⟩

/-- A reading gives the first cut of what is left of the stream. -/
private theorem readFrom_agrees {patience q : Option Nat} {line : Bytes} {quiet : Nat}
    {events : List Event} (hline : line.length < maxLine) (hq : line ≠ [] → q = some quiet) :
    (readFrom patience line quiet events).Agrees patience (failure? events)
      (cutFrom (failure? events).isNone line (signalsFrom patience q events)) := by
  induction events generalizing line quiet q with
  | nil =>
    by_cases hl : line = []
    · simp [hl, readFrom, Reading.Agrees, signalsFrom, cutFrom, failure?]
    · simp [hl, readFrom, Reading.Agrees, signals, signalsFrom, cutFrom, failure?]
  | cons e events ih =>
    cases e with
    | data window =>
      by_cases hw : window = []
      · subst hw
        simpa [readFrom, signalsFrom, failure?] using ih hline hq
      · exact readFrom_data_agrees hw hline patience q quiet events
          fun hline => ih hline fun _ => rfl
    | idle ms =>
      by_cases hl : line = []
      · -- Nothing is pending, so the silence has no effect on either side.
        subst hl
        have hnext : (readFrom patience [] (quiet + ms) events).Agrees patience (failure? events)
            (cutFrom (failure? events).isNone [] (signalsFrom patience none events)) :=
          ih hline (by simp)
        rw [cutFrom_nil_signalsFrom _ _ _ none]
        simpa [readFrom, signalsFrom, failure?] using hnext
      · have hpending : line.isEmpty = false := by simpa using hl
        rw [hq hl]
        by_cases hlong : ∃ d ∈ patience, d ≤ quiet + ms
        · have hsilence : isLongSilence patience (quiet + ms) = true := isLongSilence_iff.mpr hlong
          have hnext :=
            cutFrom_nil_signalsFrom (failure? events).isNone patience none (some 0) events
          rw [signalsFrom_some_idle_cons, if_pos hlong]
          simp [readFrom, hsilence, hpending, cutFrom, failure?, Reading.Agrees, hnext, signals]
        · have hsilence : ¬ isLongSilence patience (quiet + ms) = true :=
            mt isLongSilence_iff.mp hlong
          have hnext : (readFrom patience line (quiet + ms) events).Agrees patience
              (failure? events) (cutFrom (failure? events).isNone line
                (signalsFrom patience (some (quiet + ms)) events)) :=
            ih hline fun _ => rfl
          rw [signalsFrom_some_idle_cons, if_neg hlong]
          simpa [readFrom, hsilence, failure?] using hnext
    | failed cause => simp [readFrom, Reading.Agrees, signalsFrom, cutFrom, failure?]

theorem read_agrees (patience : Option Nat) (events : List Event) :
    (read patience events).Agrees patience (failure? events)
      (cutFrom (failure? events).isNone [] (signals patience events)) :=
  readFrom_agrees (by decide) (by simp)

theorem chunksFrom_of_chunk {patience : Option Nat} {events rest : List Event} {bytes : Bytes}
    (h : read patience events = .chunk bytes rest) (startsLine : Bool) :
    chunksFrom patience startsLine events =
      (⟨bytes, startsLine⟩ :: (chunksFrom patience (endsLine bytes) rest).1,
        (chunksFrom patience (endsLine bytes) rest).2) := by
  rw [chunksFrom]
  split <;> simp_all

theorem chunksFrom_of_ended {patience : Option Nat} {events : List Event}
    (h : read patience events = .ended) (startsLine : Bool) :
    chunksFrom patience startsLine events = ([], none) := by
  rw [chunksFrom]
  split <;> simp_all

theorem chunksFrom_of_failed {patience : Option Nat} {events rest : List Event} {cause : Failure}
    (h : read patience events = .failed cause rest) (startsLine : Bool) :
    chunksFrom patience startsLine events = ([], some cause) := by
  rw [chunksFrom]
  split <;> simp_all

theorem chunksFrom_eq (patience : Option Nat) (startsLine : Bool) (events : List Event) :
    chunksFrom patience startsLine events =
      (marked startsLine (cutFrom (failure? events).isNone [] (signals patience events)),
        failure? events) := by
  have hread := read_agrees patience events
  cases h : read patience events with
  | chunk bytes rest =>
    rw [h] at hread
    obtain ⟨hcuts, hfailure⟩ := hread
    have hshorter := weight_read_lt h
    rw [chunksFrom_of_chunk h, chunksFrom_eq patience (endsLine bytes) rest, hcuts, hfailure]
    rfl
  | ended =>
    rw [h] at hread
    obtain ⟨hcuts, hfailure⟩ := hread
    rw [chunksFrom_of_ended h, hcuts, hfailure]
    rfl
  | failed cause rest =>
    rw [h] at hread
    obtain ⟨hcuts, hfailure⟩ := hread
    rw [chunksFrom_of_failed h, hcuts, hfailure]
    rfl
termination_by weight events

theorem chunks_eq (patience : Option Nat) (events : List Event) :
    chunks patience events =
      (marked true (cutFrom (failure? events).isNone [] (signals patience events)),
        failure? events) :=
  chunksFrom_eq patience true events

end PxeLaunch.Noise

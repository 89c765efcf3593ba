import PxeLaunch.Proofs.Noise.Pump

/-!
Pumping that breaks off. The sink may refuse a write, and the stream may fail. Main statement: what
is written until then is a beginning of what is written otherwise, and a sink that refuses a write
stops the reading as well.
-/

set_option autoImplicit false

namespace PxeLaunch.Noise

/-! ### Readings -/

/-- Whether reading chunks one after another leaves these events of a stream. -/
inductive Reads (patience : Option Nat) : Bool → List Event → List Chunk → List Event → Prop
  | nil (startsLine : Bool) (events : List Event) : Reads patience startsLine events [] events
  | cons (startsLine : Bool) {bytes : Bytes} {events rest left : List Event} {cs : List Chunk} :
      read patience events = .chunk bytes rest → Reads patience (endsLine bytes) rest cs left →
      Reads patience startsLine events (⟨bytes, startsLine⟩ :: cs) left

private theorem pump_induction {motive : Bool → List Event → Prop}
    (ended : ∀ startsLine events, read none events = .ended → motive startsLine events)
    (failed : ∀ startsLine events cause rest, read none events = .failed cause rest →
      motive startsLine events)
    (chunk : ∀ startsLine events bytes rest, read none events = .chunk bytes rest →
      motive (endsLine bytes) rest → motive startsLine events)
    (startsLine : Bool) (events : List Event) : motive startsLine events := by
  cases h : read none events with
  | ended => exact ended startsLine events h
  | failed cause rest => exact failed startsLine events cause rest h
  | chunk bytes rest =>
    have hshorter := weight_read_lt h
    exact chunk startsLine events bytes rest h
      (pump_induction ended failed chunk (endsLine bytes) rest)
termination_by weight events

/-- The same with one more chunk in front, which was written. -/
def Pumped.written (p : Pumped) (out : Bytes) : Pumped :=
  { p.counted with writes := out :: p.writes }

section

variable {f : Filter} {budget : Option Nat} {state : LineState} {startsLine : Bool}
  {events rest : List Event} {bytes : Bytes}

private theorem pumpFrom_of_ended (h : read none events = .ended) :
    f.pumpFrom budget state startsLine events = ⟨[], .ok 0, []⟩ := by
  rw [Filter.pumpFrom]
  split <;> simp_all

private theorem pumpFrom_of_failed {cause : Failure} (h : read none events = .failed cause rest) :
    f.pumpFrom budget state startsLine events = ⟨[], .error cause, rest⟩ := by
  rw [Filter.pumpFrom]
  split <;> simp_all

private theorem pumpFrom_of_isEmpty (h : read none events = .chunk bytes rest)
    (hout : (f.chunk ⟨bytes, startsLine⟩ state).1.isEmpty = true) :
    f.pumpFrom budget state startsLine events =
      (f.pumpFrom budget (f.chunk ⟨bytes, startsLine⟩ state).2 (endsLine bytes) rest).counted := by
  rw [Filter.pumpFrom]
  split <;> simp_all

private theorem pumpFrom_refused (h : read none events = .chunk bytes rest)
    (hout : (f.chunk ⟨bytes, startsLine⟩ state).1.isEmpty = false) :
    f.pumpFrom (some 0) state startsLine events = ⟨[], .error .brokenPipe, rest⟩ := by
  rw [Filter.pumpFrom]
  split <;> simp_all

private theorem pumpFrom_none_written (h : read none events = .chunk bytes rest)
    (hout : (f.chunk ⟨bytes, startsLine⟩ state).1.isEmpty = false) :
    f.pumpFrom none state startsLine events =
      (f.pumpFrom none (f.chunk ⟨bytes, startsLine⟩ state).2 (endsLine bytes) rest).written
        (f.chunk ⟨bytes, startsLine⟩ state).1 := by
  rw [Filter.pumpFrom]
  split <;> simp_all [Pumped.written, Pumped.counted]

private theorem pumpFrom_succ_written {n : Nat} (h : read none events = .chunk bytes rest)
    (hout : (f.chunk ⟨bytes, startsLine⟩ state).1.isEmpty = false) :
    f.pumpFrom (some (n + 1)) state startsLine events =
      (f.pumpFrom (some n) (f.chunk ⟨bytes, startsLine⟩ state).2 (endsLine bytes) rest).written
        (f.chunk ⟨bytes, startsLine⟩ state).1 := by
  rw [Filter.pumpFrom]
  split <;> simp_all [Pumped.written, Pumped.counted]

end

/-! ### A sink that fails -/

section

variable (f : Filter) (n : Nat) (state : LineState) (startsLine : Bool) (events : List Event)

private theorem writes_pumpFrom_some :
    (f.pumpFrom (some n) state startsLine events).writes =
      (f.pumpFrom none state startsLine events).writes.take n := by
  induction startsLine, events using pump_induction generalizing n state with
  | ended startsLine events h => rw [pumpFrom_of_ended h, pumpFrom_of_ended h, List.take_nil]
  | failed startsLine events cause rest h =>
    rw [pumpFrom_of_failed h, pumpFrom_of_failed h, List.take_nil]
  | chunk startsLine events bytes rest h ih =>
    cases hout : (f.chunk ⟨bytes, startsLine⟩ state).1.isEmpty with
    | true =>
      rw [pumpFrom_of_isEmpty h hout, pumpFrom_of_isEmpty h hout]
      exact ih n _
    | false =>
      cases n with
      | zero => rw [pumpFrom_refused h hout, List.take_zero]
      | succ n =>
        rw [pumpFrom_succ_written h hout, pumpFrom_none_written h hout]
        exact congrArg _ (ih n _)

private theorem pumpFrom_some_of_le
    (hle : (f.pumpFrom none state startsLine events).writes.length ≤ n) :
    f.pumpFrom (some n) state startsLine events = f.pumpFrom none state startsLine events := by
  induction startsLine, events using pump_induction generalizing n state with
  | ended startsLine events h => rw [pumpFrom_of_ended h, pumpFrom_of_ended h]
  | failed startsLine events cause rest h => rw [pumpFrom_of_failed h, pumpFrom_of_failed h]
  | chunk startsLine events bytes rest h ih =>
    cases hout : (f.chunk ⟨bytes, startsLine⟩ state).1.isEmpty with
    | true =>
      rw [pumpFrom_of_isEmpty h hout] at hle ⊢
      rw [pumpFrom_of_isEmpty h hout, ih n _ hle]
    | false =>
      rw [pumpFrom_none_written h hout] at hle ⊢
      cases n with
      | zero => cases hle
      | succ n => rw [pumpFrom_succ_written h hout, ih n _ (Nat.le_of_succ_le_succ hle)]

/-- A sink that refuses a write ends the pumping with its failure, and nothing is read after the
chunk that was to be written. -/
private theorem exists_reads_of_lt
    (hlt : n < (f.pumpFrom none state startsLine events).writes.length) :
    (f.pumpFrom (some n) state startsLine events).result = .error .brokenPipe ∧
      ∃ cs c, Reads none startsLine events (cs ++ [c])
          (f.pumpFrom (some n) state startsLine events).unread ∧
        (f.chunks state cs).filter (!·.isEmpty) =
          (f.pumpFrom none state startsLine events).writes.take n ∧
        (f.chunks state (cs ++ [c])).filter (!·.isEmpty) =
          (f.pumpFrom none state startsLine events).writes.take (n + 1) := by
  induction startsLine, events using pump_induction generalizing n state with
  | ended startsLine events h =>
    rw [pumpFrom_of_ended h] at hlt
    cases hlt
  | failed startsLine events cause rest h =>
    rw [pumpFrom_of_failed h] at hlt
    cases hlt
  | chunk startsLine events bytes rest h ih =>
    cases hout : (f.chunk ⟨bytes, startsLine⟩ state).1.isEmpty with
    | true =>
      rw [pumpFrom_of_isEmpty h hout] at hlt ⊢
      obtain ⟨hresult, cs, c, hreads, hfirst, hnext⟩ := ih n _ hlt
      rw [pumpFrom_of_isEmpty h hout]
      refine ⟨?_, ⟨bytes, startsLine⟩ :: cs, c, .cons startsLine h hreads, ?_, ?_⟩
      · rw [Pumped.counted, hresult]
        rfl
      · rw [Filter.chunks, List.filter_cons_of_neg (by simp [hout]), hfirst]
        rfl
      · rw [List.cons_append, Filter.chunks, List.filter_cons_of_neg (by simp [hout]), hnext]
        rfl
    | false =>
      rw [pumpFrom_none_written h hout] at hlt ⊢
      cases n with
      | zero =>
        rw [pumpFrom_refused h hout]
        refine ⟨rfl, [], ⟨bytes, startsLine⟩, .cons startsLine h (.nil _ _), rfl, ?_⟩
        rw [List.nil_append, Filter.chunks, List.filter_cons_of_pos (by simp [hout])]
        rfl
      | succ n =>
        obtain ⟨hresult, cs, c, hreads, hfirst, hnext⟩ := ih n _ (Nat.lt_of_succ_lt_succ hlt)
        rw [pumpFrom_succ_written h hout]
        refine ⟨?_, ⟨bytes, startsLine⟩ :: cs, c, .cons startsLine h hreads, ?_, ?_⟩
        · rw [Pumped.written, Pumped.counted, hresult]
          rfl
        · rw [Filter.chunks, List.filter_cons_of_pos (by simp [hout]), hfirst]
          rfl
        · rw [List.cons_append, Filter.chunks, List.filter_cons_of_pos (by simp [hout]), hnext]
          rfl

end

/-! ### A stream that fails -/

/-- Whether a chunk was given out because it ends its line or is as long as a line may be. -/
def Chunk.IsComplete (c : Chunk) : Prop := endsLine c.bytes = true ∨ c.bytes.length = maxLine

instance (c : Chunk) : Decidable c.IsComplete :=
  inferInstanceAs (Decidable (endsLine c.bytes = true ∨ c.bytes.length = maxLine))

def Filter.stateAfter (f : Filter) (s : LineState) : List Chunk → LineState
  | [] => s
  | c :: rest => f.stateAfter (f.chunk c s).2 rest

private theorem chunks_append (f : Filter) (s : LineState) (cs more : List Chunk) :
    f.chunks s (cs ++ more) = f.chunks s cs ++ f.chunks (f.stateAfter s cs) more := by
  induction cs generalizing s with
  | nil => rfl
  | cons c cs ih =>
    rw [List.cons_append, Filter.stateAfter]
    exact congrArg ((f.chunk c s).1 :: ·) (ih (f.chunk c s).2)

private theorem exists_pending (line : Bytes) (hclean : Bytes.newline ∉ line)
    (hshort : line.length < maxLine) {s : List Signal} (hs : Signal.pause ∉ s) (startsLine : Bool) :
    ∃ pending : Option Chunk,
      marked startsLine (cutFrom true line s) =
        marked startsLine (cutFrom false line s) ++ pending.toList ∧
      (∀ c ∈ marked startsLine (cutFrom false line s), c.IsComplete) ∧
      ∀ c ∈ pending, ¬c.IsComplete := by
  induction s generalizing line startsLine with
  | nil =>
    cases line with
    | nil => exact ⟨none, rfl, by simp [cutFrom, marked], by simp⟩
    | cons b line =>
      refine ⟨some ⟨b :: line, startsLine⟩, rfl, by simp [cutFrom, marked], ?_⟩
      rintro c ⟨⟩
      rintro (hends | hfull)
      · rw [endsLine_of_not_mem hclean] at hends
        cases hends
      · exact absurd hfull (Nat.ne_of_lt hshort)
  | cons x s ih =>
    obtain ⟨hx, hrest⟩ := not_or.mp (mt List.mem_cons.mpr hs)
    cases x with
    | pause => exact absurd rfl hx
    | byte b =>
      simp only [cutFrom]
      split
      · next hdue =>
        obtain ⟨pending, hcuts, hcomplete, hpending⟩ :=
          ih [] (by simp) (by decide) hrest (endsLine (line ++ [b]))
        refine ⟨pending, by rw [marked, marked, hcuts]; rfl, ?_, hpending⟩
        refine List.forall_mem_cons.mpr ⟨?_, hcomplete⟩
        rcases Bool.or_eq_true_iff.mp hdue with hb | hfull
        · obtain rfl := of_decide_eq_true hb
          exact .inl (endsLine_concat_newline line)
        · exact .inr (by simpa using hfull)
      · next hopen =>
        obtain ⟨hb, hroom⟩ := not_or.mp (mt Bool.or_eq_true_iff.mpr hopen)
        simp only [decide_eq_true_eq] at hb hroom
        refine ih _ ?_ ?_ hrest startsLine
        · simpa using ⟨hclean, Ne.symm hb⟩
        · rw [List.length_append, List.length_singleton]
          omega

section

variable {before : List Event}

private theorem received_append_failed (before : List Event) (cause : Failure)
    (after : List Event) : received (before ++ .failed cause :: after) = received before := by
  induction before with
  | nil => rfl
  | cons e before ih => cases e <;> simp [received, ih]

private theorem failure?_append_failed (h : failure? before = none) (cause : Failure)
    (after : List Event) : failure? (before ++ .failed cause :: after) = some cause := by
  induction before with
  | nil => rfl
  | cons e before ih =>
    cases e with
    | data window => exact ih h
    | idle ms => exact ih h
    | failed cause => cases h

private theorem exists_chunks_of_failed (h : failure? before = none) (cause : Failure)
    (after : List Event) :
    ∃ (finished : List Chunk) (pending : Option Chunk),
      chunks none before = (finished ++ pending.toList, none) ∧
      chunks none (before ++ .failed cause :: after) = (finished, some cause) ∧
      (∀ c ∈ finished, c.IsComplete) ∧ ∀ c ∈ pending, ¬c.IsComplete := by
  have hquiet : Signal.pause ∉ signals none before := by
    rw [signals, signalsFrom_none]
    simp
  have hsignals : signals none (before ++ .failed cause :: after) = signals none before := by
    rw [signals, signals, signalsFrom_none, signalsFrom_none, received_append_failed]
  obtain ⟨pending, hcuts, hcomplete, hpending⟩ :=
    exists_pending [] (by simp) (by decide) hquiet true
  refine ⟨_, pending, ?_, ?_, hcomplete, hpending⟩
  · rw [chunks_eq, h, Option.isNone_none, hcuts]
  · rw [chunks_eq, failure?_append_failed h, Option.isNone_some, hsignals]

private theorem readFrom_append_failed (h : failure? before = none) (patience : Option Nat)
    (line : Bytes) (quiet : Nat) (cause : Failure) (after : List Event) :
    readFrom patience line quiet (before ++ .failed cause :: after) = .failed cause after ∨
      ∃ bytes left, failure? left = none ∧
        readFrom patience line quiet (before ++ .failed cause :: after) =
          .chunk bytes (left ++ .failed cause :: after) := by
  induction before generalizing line quiet with
  | nil => exact .inl rfl
  | cons e before ih =>
    have hremaining (left : Bytes) : remaining left (before ++ .failed cause :: after) =
        remaining left before ++ .failed cause :: after := by
      cases left <;> rfl
    cases e with
    | data window =>
      simp only [List.cons_append, readFrom]
      split
      · exact ih h line quiet
      · split
        · split
          · next b left _ =>
            exact .inr ⟨_, _, (failure?_remaining left before).trans h, by rw [hremaining]⟩
          · exact ih h _ 0
        · exact .inr ⟨_, _, (failure?_remaining _ before).trans h, by rw [hremaining]⟩
    | idle ms =>
      simp only [List.cons_append, readFrom]
      split
      · exact .inr ⟨line, before, h, rfl⟩
      · exact ih h line _
    | failed cause => cases h

private theorem unread_pumpFrom_of_failed (f : Filter) (state : LineState) (startsLine : Bool)
    (events : List Event) (h : failure? before = none) (cause : Failure) (after : List Event)
    (hevents : events = before ++ .failed cause :: after) :
    (f.pumpFrom none state startsLine events).unread = after := by
  induction startsLine, events using pump_induction generalizing before state with
  | ended startsLine events hread =>
    subst hevents
    rcases readFrom_append_failed h none [] 0 cause after with hfailed | ⟨bytes, left, -, hchunk⟩
    · cases hread.symm.trans hfailed
    · cases hread.symm.trans hchunk
  | failed startsLine events cause' rest hread =>
    subst hevents
    rcases readFrom_append_failed h none [] 0 cause after with hfailed | ⟨bytes, left, -, hchunk⟩
    · rw [pumpFrom_of_failed hfailed]
    · cases hread.symm.trans hchunk
  | chunk startsLine events bytes rest hread ih =>
    subst hevents
    rcases readFrom_append_failed h none [] 0 cause after with
      hfailed | ⟨bytes', left, hleft, hchunk⟩
    · cases hread.symm.trans hfailed
    · obtain ⟨rfl, rfl⟩ := Reading.chunk.inj (hread.symm.trans hchunk)
      cases hout : (f.chunk ⟨bytes, startsLine⟩ state).1.isEmpty with
      | true =>
        rw [pumpFrom_of_isEmpty hread hout]
        exact ih _ hleft rfl
      | false =>
        rw [pumpFrom_none_written hread hout]
        exact ih _ hleft rfl

end

/-- A sink that takes some writes gets the first of those that one without limit would get. If it
refuses one, the pumping ends with its failure, and nothing is read after the chunk that was to be
written; otherwise the sink makes no difference. A stream that fails ends the pumping with its own
failure. Until then the complete chunks of what came before are written, as they are for a stream
that ends there instead; that one may have a chunk more, which is not complete. -/
theorem pump_breaks_off (f : Filter) (events : List Event) :
    (∀ n, (f.pump (some n) events).writes = (f.pump none events).writes.take n ∧
      (n < (f.pump none events).writes.length →
        (f.pump (some n) events).result = .error .brokenPipe ∧
        ∃ cs c, Reads none true events (cs ++ [c]) (f.pump (some n) events).unread ∧
          (f.chunks .start cs).filter (!·.isEmpty) = (f.pump none events).writes.take n ∧
          (f.chunks .start (cs ++ [c])).filter (!·.isEmpty) =
            (f.pump none events).writes.take (n + 1)) ∧
      ((f.pump none events).writes.length ≤ n → f.pump (some n) events = f.pump none events)) ∧
    ∀ before cause after, failure? before = none → events = before ++ .failed cause :: after →
      (f.pump none events).result = .error cause ∧ (f.pump none events).unread = after ∧
      ∃ (finished : List Chunk) (pending : Option Chunk),
        (chunks none before).1 = finished ++ pending.toList ∧ (chunks none events).1 = finished ∧
        (∀ c ∈ finished, c.IsComplete) ∧ (∀ c ∈ pending, ¬c.IsComplete) ∧
        (f.pump none events).writes = (f.chunks .start finished).filter (!·.isEmpty) ∧
        (f.pump none before).writes = (f.pump none events).writes ++
          (f.chunks (f.stateAfter .start finished) pending.toList).filter (!·.isEmpty) := by
  refine ⟨fun n => ⟨writes_pumpFrom_some f n .start true events,
    exists_reads_of_lt f n .start true events, pumpFrom_some_of_le f n .start true events⟩, ?_⟩
  rintro before cause after h rfl
  obtain ⟨finished, pending, hbefore, hevents, hcomplete, hpending⟩ :=
    exists_chunks_of_failed h cause after
  obtain ⟨hwrites, hresult⟩ := pumpFrom_eq f .start true (before ++ .failed cause :: after)
  obtain ⟨hwritesBefore, -⟩ := pumpFrom_eq f .start true before
  rw [chunks] at hbefore hevents
  rw [hevents] at hwrites hresult
  rw [hbefore] at hwritesBefore
  refine ⟨hresult, unread_pumpFrom_of_failed f .start true _ h cause after rfl, finished, pending,
    congrArg Prod.fst hbefore, congrArg Prod.fst hevents, hcomplete, hpending, hwrites, ?_⟩
  rw [Filter.pump, Filter.pump, hwritesBefore, hwrites, chunks_append, List.filter_append]

/-- A stream that fails inside its third line, and a sink that takes one of two writes. -/
theorem pump_breaks_off_third_line :
    let f := (Filter.compile [⟨"Bds", "[Bds]"⟩]).toOption.getD .passthrough
    let before : List Event := [.data (Bytes.ofString "Bds: x\nShe"), .idle 9,
      .data (Bytes.ofString "ll\nab")]
    let after : List Event := [.data (Bytes.ofString "c\n")]
    let events := before ++ .failed (.stated "reset") :: after
    failure? before = none ∧ 1 < (f.pump none events).writes.length ∧
      (f.pump none events).writes = [Bytes.ofString "[Bds]\n", Bytes.ofString "Shell\n"] ∧
      (f.pump none events).result = .error (.stated "reset") ∧ (f.pump none events).unread = after ∧
      (f.pump (some 1) events).writes = [Bytes.ofString "[Bds]\n"] ∧
      (f.pump (some 1) events).result = .error .brokenPipe ∧
      f.pump (some 2) events = f.pump none events := by
  intro f before after events
  have hfails : failure? before = none := rfl
  have hwrites : (f.pump none events).writes =
      [Bytes.ofString "[Bds]\n", Bytes.ofString "Shell\n"] := by
    rw [Filter.pump, (pumpFrom_eq f .start true events).1, chunksFrom_eq]
    decide +kernel
  have hlt : 1 < (f.pump none events).writes.length := by
    rw [hwrites]
    decide
  have hle : (f.pump none events).writes.length ≤ 2 := by
    rw [hwrites]
    decide
  obtain ⟨hsink, hstream⟩ := pump_breaks_off f events
  obtain ⟨hresult, hunread, -⟩ := hstream before (.stated "reset") after hfails rfl
  obtain ⟨hone, hrefused, -⟩ := hsink 1
  obtain ⟨-, -, htwo⟩ := hsink 2
  exact ⟨hfails, hlt, hwrites, hresult, hunread, by rw [hone, hwrites]; rfl, (hrefused hlt).1,
    htwo hle⟩

end PxeLaunch.Noise

import PxeLaunch.Proofs.Noise.Pump
import PxeLaunch.Proofs.Supervision.Move

/-!
What reaches the sink while an emulator is supervised. Main statement: in whatever order the parts
move, the chunks of each output reach the queue and the sink whole, in order and at most once, and
all of them have been written when the supervision ends without a failure.
-/

set_option autoImplicit false

namespace PxeLaunch.Supervision

open Noise (Event Filter LineState Signal)

variable {f : Filter} {patience : Option Nat}

/-! ### One output by itself -/

/-- What is passed on of a stream, from a point in it on. A chunk of which nothing is left is not
passed on. -/
def passedFrom (f : Filter) (patience : Option Nat) (line : LineState) (startsLine : Bool)
    (events : List Event) : List Bytes :=
  (f.chunks line (Noise.chunksFrom patience startsLine events).1).filter (!·.isEmpty)

def passed (f : Filter) (patience : Option Nat) (events : List Event) : List Bytes :=
  (f.chunks .start (Noise.chunks patience events).1).filter (!·.isEmpty)

/-- What a reader has not put into the queue yet. -/
def Reader.ahead (f : Filter) (patience : Option Nat) (r : Reader) : List Bytes :=
  r.outbox.toList ++
    if r.phase = .reading then passedFrom f patience r.line r.startsLine r.unread else []

private theorem Reader.ahead_read {r : Reader} (hphase : r.phase = .reading)
    (houtbox : r.outbox = none) : (r.read f patience).ahead f patience = r.ahead f patience := by
  cases hread : Noise.read patience r.unread with
  | chunk bytes rest =>
    cases hempty : (f.chunk ⟨bytes, r.startsLine⟩ r.line).1.isEmpty <;>
      simp [Reader.ahead, Reader.read, passedFrom, hread, hphase, houtbox, hempty,
        Noise.chunksFrom_of_chunk hread, Filter.chunks]
  | ended =>
    simp [Reader.ahead, Reader.read, passedFrom, hread, hphase, houtbox,
      Noise.chunksFrom_of_ended hread, Filter.chunks]
  | failed cause rest =>
    simp [Reader.ahead, Reader.read, passedFrom, hread, hphase, houtbox,
      Noise.chunksFrom_of_failed hread, Filter.chunks]

private theorem Reader.ahead_of_outbox {r : Reader} {bytes : Bytes} (h : r.outbox = some bytes) :
    r.ahead f patience = bytes :: { r with outbox := none }.ahead f patience := by
  simp [Reader.ahead, h]

private theorem Reader.ahead_of_isDone {r : Reader} (h : r.isDone = true) :
    r.ahead f patience = [] := by
  simp only [Reader.isDone, Bool.and_eq_true, bne_iff_ne, Option.isNone_iff_eq_none] at h
  simp [Reader.ahead, h.1, h.2]

private theorem passed_eq_writes_pump {events : List Event}
    (h : Signal.pause ∉ Noise.signals patience events) :
    passed f patience events = (f.pump none events).writes := by
  have hsignals : Noise.signals patience events = Noise.signals none events := by
    rw [← Noise.map_byte_bytes h, Noise.bytes_signals, Noise.signals,
      Noise.signalsFrom_none]
  have hchunks : Noise.chunks patience events = Noise.chunks none events := by
    rw [Noise.chunks_eq, Noise.chunks_eq, hsignals]
  rw [passed, hchunks]
  exact (Noise.pumpFrom_eq f .start true events).1.symm

/-! ### Interleaving -/

/-- The third list is the first two, each in its order, put into one. -/
inductive Interleaving {α : Type} : List α → List α → List α → Prop where
  | nil : Interleaving [] [] []
  | left {x : α} {xs ys zs : List α} : Interleaving xs ys zs → Interleaving (x :: xs) ys (x :: zs)
  | right {y : α} {xs ys zs : List α} : Interleaving xs ys zs → Interleaving xs (y :: ys) (y :: zs)

def fromPipe (pipe : Pipe) (sent : List (Pipe × Bytes)) : List Bytes :=
  (sent.filter (·.1 = pipe)).map Prod.snd

@[simp] theorem fromPipe_append (pipe : Pipe) (sent more : List (Pipe × Bytes)) :
    fromPipe pipe (sent ++ more) = fromPipe pipe sent ++ fromPipe pipe more := by
  simp [fromPipe]

private theorem fromPipe_self (pipe : Pipe) (bytes : Bytes) :
    fromPipe pipe [(pipe, bytes)] = [bytes] := by
  simp [fromPipe]

private theorem fromPipe_of_ne {pipe other : Pipe} (h : other ≠ pipe) (bytes : Bytes) :
    fromPipe other [(pipe, bytes)] = [] := by
  simp [fromPipe, Ne.symm h]

theorem interleaving_fromPipe (sent : List (Pipe × Bytes)) :
    Interleaving (fromPipe .stdout sent) (fromPipe .stderr sent) (sent.map Prod.snd) := by
  induction sent with
  | nil => exact .nil
  | cons c sent ih =>
    obtain ⟨pipe, bytes⟩ := c
    cases pipe with
    | stdout => exact .left ih
    | stderr => exact .right ih

/-! ### What moves put into the queue -/

def streamOf (out err : List Event) : Pipe → List Event
  | .stdout => out
  | .stderr => err

/-- The chunk that a move puts into the queue, with the output that it comes from. -/
def State.put (s : State) : Move → List (Pipe × Bytes)
  | .send pipe => (s.reader pipe).outbox.toList.map (pipe, ·)
  | _ => []

def State.sent (f : Filter) (patience : Option Nat) (s : State) : List Move → List (Pipe × Bytes)
  | [] => []
  | m :: rest =>
    s.put m ++ match s.step f patience m with
      | some next => next.sent f patience rest
      | none => []

def Move.isWrite : Move → Bool
  | .write _ => true
  | _ => false

/-- What holds after moves that put `sent` into the queue and tried to write `tried` chunks. -/
structure Delivered (f : Filter) (patience : Option Nat) (streams : Pipe → List Event)
    (sent : List (Pipe × Bytes)) (tried : Nat) (s : State) : Prop where
  room : s.queue.length ≤ capacity
  order (pipe : Pipe) :
    passed f patience (streams pipe) = fromPipe pipe sent ++ (s.reader pipe).ahead f patience
  kept : sent.map Prod.snd = s.written.reverse ++ s.held.toList ++ s.queue
  unfailed : (∀ cause, s.writer ≠ .failed cause) → tried = s.written.length
  failed (cause : Failure) : s.writer = .failed cause →
    s.held.isSome = true ∧ tried = s.written.length + 1
  finished : s.writer = .finished →
    s.held = none ∧ s.queue = [] ∧ ∀ pipe, (s.reader pipe).isDone = true

section Step

variable {streams : Pipe → List Event} {sent : List (Pipe × Bytes)} {tried : Nat} {s t : State}

private theorem delivered_start (f : Filter) (patience : Option Nat) (out err : List Event) :
    Delivered f patience (streamOf out err) [] 0 (.start out err) where
  room := Nat.zero_le _
  order pipe := by cases pipe <;> rfl
  kept := rfl
  unfailed _ := rfl
  failed _ h := by cases h
  finished h := by cases h

private theorem Delivered.read (hs : Delivered f patience streams sent tried s) {pipe : Pipe}
    (h : s.step f patience (.read pipe) = some t) : Delivered f patience streams sent tried t := by
  obtain ⟨hphase, houtbox, rfl⟩ := step_read h
  refine ⟨by simpa using hs.room, fun other => ?_, by simpa using hs.kept,
    by simpa using hs.unfailed, by simpa using hs.failed, fun hfinished => ?_⟩
  · rw [hs.order other]
    by_cases hother : other = pipe
    · rw [hother, State.reader_withReader_self, Reader.ahead_read hphase houtbox]
    · rw [State.reader_withReader_of_ne s _ hother]
  · have hdone := (hs.finished (by simpa using hfinished)).2.2 pipe
    simp [Reader.isDone, hphase] at hdone

private theorem Delivered.send (hs : Delivered f patience streams sent tried s) {pipe : Pipe}
    (h : s.step f patience (.send pipe) = some t) :
    Delivered f patience streams (sent ++ s.put (.send pipe)) tried t := by
  obtain ⟨bytes, houtbox, hroom, rfl⟩ := step_send h
  have hput : s.put (.send pipe) = [(pipe, bytes)] := by simp [State.put, houtbox]
  rw [hput]
  refine ⟨by simpa using Nat.succ_le_of_lt hroom, fun other => ?_, by simp [hs.kept],
    by simpa using hs.unfailed, by simpa using hs.failed, fun hfinished => ?_⟩
  · rw [hs.order other, fromPipe_append, List.append_assoc]
    by_cases hother : other = pipe
    · subst hother
      rw [fromPipe_self, Reader.ahead_of_outbox houtbox]
      exact congrArg (_ ++ bytes :: Reader.ahead f patience ·)
        (s.reader_withReader_self _ other).symm
    · rw [fromPipe_of_ne hother, List.nil_append]
      exact congrArg (_ ++ Reader.ahead f patience ·) (s.reader_withReader_of_ne _ hother).symm
  · have hdone := (hs.finished (by simpa using hfinished)).2.2 pipe
    simp [Reader.isDone, houtbox] at hdone

private theorem Delivered.receive (hs : Delivered f patience streams sent tried s)
    (h : s.step f patience .receive = some t) : Delivered f patience streams sent tried t := by
  obtain ⟨hwriter, hheld, bytes, rest, hqueue, rfl⟩ := step_receive h
  have hroom := hs.room
  have hkept := hs.kept
  rw [hqueue] at hroom hkept
  refine ⟨Nat.le_of_succ_le hroom, hs.order, by simpa [hheld] using hkept, hs.unfailed,
    fun cause hfailed => ?_, fun hfinished => ?_⟩
  · rw [hwriter] at hfailed
    cases hfailed
  · rw [hwriter] at hfinished
    cases hfinished

private theorem Delivered.write (hs : Delivered f patience streams sent tried s)
    (h : s.step f patience (.write none) = some t) :
    Delivered f patience streams sent (tried + 1) t := by
  obtain ⟨hwriter, bytes, hheld, rfl⟩ := step_write h
  have htried : tried = s.written.length := hs.unfailed (by simp [hwriter])
  refine ⟨hs.room, hs.order, by simp [hs.kept, hheld], fun _ => ?_, fun cause hfailed => ?_,
    fun hfinished => ?_⟩
  · rw [htried, List.length_cons]
  · rw [hwriter] at hfailed
    cases hfailed
  · rw [hwriter] at hfinished
    cases hfinished

private theorem Delivered.write_failing (hs : Delivered f patience streams sent tried s)
    {cause : Failure} (h : s.step f patience (.write (some cause)) = some t) :
    Delivered f patience streams sent (tried + 1) t := by
  obtain ⟨hwriter, hheld, rfl⟩ := step_write_failing h
  have htried : tried = s.written.length := hs.unfailed (by simp [hwriter])
  refine ⟨hs.room, hs.order, hs.kept, fun hunfailed => ?_, fun _ _ => ?_, fun hfinished => ?_⟩
  · exact absurd rfl (hunfailed cause)
  · exact ⟨hheld, by rw [htried]⟩
  · cases hfinished

private theorem Delivered.close (hs : Delivered f patience streams sent tried s)
    (h : s.step f patience .close = some t) : Delivered f patience streams sent tried t := by
  obtain ⟨hwriter, hheld, hqueue, hdone, rfl⟩ := step_close h
  refine ⟨hs.room, hs.order, hs.kept, fun _ => ?_, fun cause hfailed => ?_,
    fun _ => ⟨hheld, hqueue, hdone⟩⟩
  · exact hs.unfailed (by simp [hwriter])
  · cases hfailed

private theorem Delivered.wait (hs : Delivered f patience streams sent tried s) {m : Move}
    (hm : m.isWait = true) (h : s.step f patience m = some t) :
    Delivered f patience streams sent tried t := by
  obtain ⟨hout, herr, hqueue, hheld, hwriter, hwritten⟩ := step_wait hm h
  have hreader : t.reader = s.reader := by
    funext pipe
    cases pipe <;> assumption
  obtain ⟨hroom, horder, hkept, hunfailed, hfailed, hfinished⟩ := hs
  constructor <;> simpa only [hreader, hqueue, hheld, hwriter, hwritten]

private theorem Delivered.step (hs : Delivered f patience streams sent tried s) {m : Move}
    (h : s.step f patience m = some t) :
    Delivered f patience streams (sent ++ s.put m) (tried + if m.isWrite then 1 else 0) t := by
  cases m with
  | read pipe => simpa [State.put, Move.isWrite] using hs.read h
  | send pipe => simpa [Move.isWrite] using hs.send h
  | receive => simpa [State.put, Move.isWrite] using hs.receive h
  | write failure =>
    cases failure with
    | none => simpa [State.put, Move.isWrite] using hs.write h
    | some cause => simpa [State.put, Move.isWrite] using hs.write_failing h
  | close => simpa [State.put, Move.isWrite] using hs.close h
  | interrupt | exit | wake | reap => simpa [State.put, Move.isWrite] using hs.wait rfl h

private theorem Delivered.steps (hs : Delivered f patience streams sent tried s) {moves : List Move}
    (h : s.steps f patience moves = some t) :
    Delivered f patience streams (sent ++ s.sent f patience moves)
      (tried + moves.countP Move.isWrite) t := by
  induction moves generalizing s sent tried with
  | nil =>
    cases h
    simpa [State.sent] using hs
  | cons m rest ih =>
    obtain ⟨next, hstep, hrest⟩ := Option.bind_eq_some_iff.mp h
    have hnext := ih (hs.step hstep) hrest
    rw [List.append_assoc] at hnext
    have hcount : tried + (m :: rest).countP Move.isWrite =
        tried + (if m.isWrite then 1 else 0) + rest.countP Move.isWrite := by
      rw [List.countP_cons]
      omega
    rw [State.sent, hstep, hcount]
    exact hnext

end Step

/-! ### What is written -/

/-- Chunks that interleave beginnings of what two streams pass on. -/
def InterleaveBeginnings (f : Filter) (patience : Option Nat) (out err : List Event)
    (chunks : List Bytes) : Prop :=
  ∃ a b, a <+: passed f patience out ∧ b <+: passed f patience err ∧ Interleaving a b chunks

section Run

variable {out err : List Event} {moves : List Move} {s : State}

theorem delivered_of_steps (h : (State.start out err).steps f patience moves = some s) :
    Delivered f patience (streamOf out err) ((State.start out err).sent f patience moves)
      (moves.countP Move.isWrite) s := by
  simpa using (delivered_start f patience out err).steps h

/-- The first of the chunks that were put into the queue interleave beginnings. -/
private theorem Delivered.interleaveBeginnings {sent : List (Pipe × Bytes)} {tried : Nat}
    (hs : Delivered f patience (streamOf out err) sent tried s) {chunks : List Bytes}
    (h : chunks <+: sent.map Prod.snd) : InterleaveBeginnings f patience out err chunks := by
  have hchunks : chunks = (sent.take chunks.length).map Prod.snd := by
    rw [List.map_take]
    exact List.prefix_iff_eq_take.mp h
  have hbeginning (pipe : Pipe) : fromPipe pipe (sent.take chunks.length) <+:
      passed f patience (streamOf out err pipe) := by
    have hsent : fromPipe pipe (sent.take chunks.length) <+: fromPipe pipe sent :=
      ((List.take_prefix _ _).filter _).map _
    exact hsent.trans ⟨_, (hs.order pipe).symm⟩
  rw [hchunks]
  exact ⟨_, _, hbeginning .stdout, hbeginning .stderr, interleaving_fromPipe _⟩

theorem Delivered.interleaving_written {sent : List (Pipe × Bytes)} {tried : Nat}
    (hs : Delivered f patience (streamOf out err) sent tried s) (h : s.writer = .finished) :
    Interleaving (passed f patience out) (passed f patience err) s.written.reverse := by
  obtain ⟨hheld, hqueue, hdone⟩ := hs.finished h
  have hall (pipe : Pipe) : passed f patience (streamOf out err pipe) = fromPipe pipe sent := by
    rw [hs.order pipe, Reader.ahead_of_isDone (hdone pipe), List.append_nil]
  have hwritten : sent.map Prod.snd = s.written.reverse := by
    simpa [hheld, hqueue] using hs.kept
  rw [← hwritten]
  exact hall .stdout ▸ hall .stderr ▸ interleaving_fromPipe sent

theorem State.writer_of_result? {result : Except LaunchError Outcome}
    (h : s.result? = some result) (hsink : ∀ cause, s.writer ≠ .failed cause) :
    s.writer = .finished := by
  cases hwriter : s.writer with
  | finished => rfl
  | failed cause => exact absurd hwriter (hsink cause)
  | writing => cases hwaited : s.waited? <;> simp [State.result?, hwriter, hwaited] at h

/-- What reaches the queue and the sink, whatever the order of the moves. The queue keeps to its
bound. What has been written, what the writer holds and what is queued make up, in this order, what
has been put into the queue, and this interleaves beginnings of what the outputs pass on; so does
what has been written by itself. If the sink has failed, it has taken all chunks before the one of
the write that failed, which the writer still holds. When the supervision ends and the sink has not
failed, everything that the outputs pass on has been written. What an output without long silences
passes on is what pumping it writes. -/
theorem written_and_queued_interleave_outputs
    (h : (State.start out err).steps f patience moves = some s) :
    s.queue.length ≤ capacity ∧
      ((State.start out err).sent f patience moves).map Prod.snd =
        s.written.reverse ++ s.held.toList ++ s.queue ∧
      InterleaveBeginnings f patience out err (s.written.reverse ++ s.held.toList ++ s.queue) ∧
      InterleaveBeginnings f patience out err s.written.reverse ∧
      ((∀ cause, s.writer ≠ .failed cause) → moves.countP Move.isWrite = s.written.length) ∧
      (∀ cause, s.writer = .failed cause →
        s.held.isSome = true ∧ moves.countP Move.isWrite = s.written.length + 1) ∧
      (∀ result, s.result? = some result → (∀ cause, s.writer ≠ .failed cause) →
        Interleaving (passed f patience out) (passed f patience err) s.written.reverse) ∧
      ∀ events, Signal.pause ∉ Noise.signals patience events →
        passed f patience events = (f.pump none events).writes := by
  have hs := delivered_of_steps h
  refine ⟨hs.room, hs.kept, hs.interleaveBeginnings ?_, hs.interleaveBeginnings ?_, hs.unfailed,
    hs.failed, fun result hresult hsink => ?_, fun events => passed_eq_writes_pump⟩
  · exact ⟨[], by rw [hs.kept, List.append_nil]⟩
  · rw [hs.kept, List.append_assoc]
    exact List.prefix_append _ _
  · exact hs.interleaving_written (State.writer_of_result? hresult hsink)

end Run

/-- A prompt that a silence gives out, a line of the other output in between, and an interrupt while
chunks are still queued. -/
theorem written_and_queued_interleave_outputs_interrupted :
    let f := (Filter.compile [⟨"Bds", "[Bds]"⟩]).toOption.getD .passthrough
    let out : List Event := [.data (Bytes.ofString "Bds: x\nShe"), .idle 30,
      .data (Bytes.ofString "ll> "), .idle 150]
    let err : List Event := [.data (Bytes.ofString "warn")]
    ∃ moves s, (State.start out err).steps f (some 100) moves = some s ∧
      s.result?.map Except.toOption = some (some .interrupted) ∧
      s.written.reverse = [Bytes.ofString "warn", Bytes.ofString "[Bds]\n",
        Bytes.ofString "Shell> "] ∧
      Interleaving (passed f (some 100) out) (passed f (some 100) err) s.written.reverse := by
  intro f out err
  let moves : List Move := [.read .stdout, .read .stderr, .send .stderr, .send .stdout, .interrupt,
    .wake, .receive, .write none, .receive, .read .stdout, .send .stdout, .write none,
    .read .stdout, .receive, .read .stderr, .reap, .write none, .close]
  have hrun : ((State.start out err).steps f (some 100) moves).map (fun s =>
      (s.result?.map Except.toOption, s.written.reverse, s.writer)) =
      some (some (some .interrupted), [Bytes.ofString "warn", Bytes.ofString "[Bds]\n",
        Bytes.ofString "Shell> "], .finished) := by
    decide +kernel
  obtain ⟨s, hsteps, hend⟩ := Option.map_eq_some_iff.mp hrun
  simp only [Prod.mk.injEq] at hend
  obtain ⟨hended, hwritten, hwriter⟩ := hend
  obtain ⟨result, hresult, -⟩ := Option.map_eq_some_iff.mp hended
  obtain ⟨-, -, -, -, -, -, hall, -⟩ := written_and_queued_interleave_outputs hsteps
  have hsink (cause : Failure) : s.writer ≠ .failed cause := by simp [hwriter]
  exact ⟨moves, s, hsteps, hended, hwritten, hall result hresult hsink⟩

/-! ### The usual order of moves -/

theorem exists_steps_drive (f : Filter) (patience budget : Option Nat) (interrupted : Bool)
    (status : ExitStatus) (fuel : Nat) (s : State) :
    ∃ moves, s.steps f patience moves =
        some (drive f patience budget interrupted status fuel s) ∧
      ∀ m ∈ moves, ∃ t, nextMove budget interrupted status t = some m := by
  induction fuel generalizing s with
  | zero => exact ⟨[], rfl, by simp⟩
  | succ fuel ih =>
    rw [drive]
    split
    · rename_i next hnext
      obtain ⟨m, hm, hstep⟩ := Option.bind_eq_some_iff.mp hnext
      obtain ⟨moves, hmoves, hnexts⟩ := ih next
      refine ⟨m :: moves, by rw [State.steps, hstep, Option.bind_some, hmoves], fun other h => ?_⟩
      obtain rfl | h := List.mem_cons.mp h
      · exact ⟨s, hm⟩
      · exact hnexts other h
    · exact ⟨[], rfl, by simp⟩

/-- The activities of a run that are seen by those who supervise it. -/
def seen (f : Filter) (patience : Option Nat) (around : Surroundings) (run : Run) : List Activity :=
  (interruptedAt? f patience around.trigger run.activities).getD run.activities

end PxeLaunch.Supervision

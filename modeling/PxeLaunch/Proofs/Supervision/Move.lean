import PxeLaunch.Launch.Supervision

/-!
What the moves of a supervision do. For each move there is one statement that says when it can be
made and what it leaves; nothing else about a move is used elsewhere.
-/

set_option autoImplicit false

namespace PxeLaunch.Supervision

open Noise (Filter)

variable {f : Filter} {patience : Option Nat} {s t : State}

/-! ### Readers of a state -/

@[simp] theorem State.reader_withReader_self (s : State) (r : Reader) (pipe : Pipe) :
    (s.withReader r pipe).reader pipe = r := by
  cases pipe <;> rfl

theorem State.reader_withReader_of_ne (s : State) (r : Reader) {pipe other : Pipe}
    (h : other ≠ pipe) : (s.withReader r pipe).reader other = s.reader other := by
  cases pipe <;> cases other <;> first | rfl | exact absurd rfl h

@[simp] theorem State.queue_withReader (s : State) (r : Reader) (pipe : Pipe) :
    (s.withReader r pipe).queue = s.queue := by
  cases pipe <;> rfl

@[simp] theorem State.held_withReader (s : State) (r : Reader) (pipe : Pipe) :
    (s.withReader r pipe).held = s.held := by
  cases pipe <;> rfl

@[simp] theorem State.writer_withReader (s : State) (r : Reader) (pipe : Pipe) :
    (s.withReader r pipe).writer = s.writer := by
  cases pipe <;> rfl

@[simp] theorem State.written_withReader (s : State) (r : Reader) (pipe : Pipe) :
    (s.withReader r pipe).written = s.written := by
  cases pipe <;> rfl

@[simp] theorem State.interrupt_withReader (s : State) (r : Reader) (pipe : Pipe) :
    (s.withReader r pipe).interrupt = s.interrupt := by
  cases pipe <;> rfl

@[simp] theorem State.child_withReader (s : State) (r : Reader) (pipe : Pipe) :
    (s.withReader r pipe).child = s.child := by
  cases pipe <;> rfl

@[simp] theorem State.stop_withReader (s : State) (r : Reader) (pipe : Pipe) :
    (s.withReader r pipe).stop = s.stop := by
  cases pipe <;> rfl

@[simp] theorem State.killed_withReader (s : State) (r : Reader) (pipe : Pipe) :
    (s.withReader r pipe).killed = s.killed := by
  cases pipe <;> rfl

@[simp] theorem State.reaped_withReader (s : State) (r : Reader) (pipe : Pipe) :
    (s.withReader r pipe).reaped = s.reaped := by
  cases pipe <;> rfl

/-! ### Moves of the readers -/

theorem step_read {pipe : Pipe} (h : s.step f patience (.read pipe) = some t) :
    (s.reader pipe).phase = .reading ∧ (s.reader pipe).outbox = none ∧
      t = s.withReader ((s.reader pipe).read f patience) pipe := by
  dsimp only [State.step] at h
  split at h
  · rename_i hready
    simp only [Bool.and_eq_true, decide_eq_true_eq, Option.isNone_iff_eq_none] at hready
    exact ⟨hready.1, hready.2, (Option.some.inj h).symm⟩
  · cases h

theorem step_send {pipe : Pipe} (h : s.step f patience (.send pipe) = some t) :
    ∃ bytes, (s.reader pipe).outbox = some bytes ∧ s.queue.length < capacity ∧
      t = { s.withReader { s.reader pipe with outbox := none } pipe with
        queue := s.queue ++ [bytes] } := by
  dsimp only [State.step] at h
  split at h
  · rename_i bytes hbytes
    split at h
    · rename_i hroom
      exact ⟨bytes, hbytes, hroom, (Option.some.inj h).symm⟩
    · cases h
  · cases h

/-! ### Moves of the writer -/

theorem step_receive (h : s.step f patience .receive = some t) :
    s.writer = .writing ∧ s.held = none ∧ ∃ bytes rest, s.queue = bytes :: rest ∧
      t = { s with queue := rest, held := some bytes } := by
  dsimp only [State.step] at h
  split at h
  · rename_i hwriter hheld hqueue
    exact ⟨hwriter, hheld, _, _, hqueue, (Option.some.inj h).symm⟩
  · cases h

theorem step_write (h : s.step f patience (.write none) = some t) :
    s.writer = .writing ∧ ∃ bytes, s.held = some bytes ∧
      t = { s with held := none, written := bytes :: s.written } := by
  dsimp only [State.step] at h
  split at h
  · simp_all
  · rename_i hwriter hheld _
    exact ⟨hwriter, _, hheld, (Option.some.inj h).symm⟩
  · cases h

theorem step_write_failing {cause : Failure}
    (h : s.step f patience (.write (some cause)) = some t) :
    s.writer = .writing ∧ s.held.isSome = true ∧ t = { s with writer := .failed cause } := by
  dsimp only [State.step] at h
  split at h
  · rename_i hwriter hheld hcause
    cases hcause
    exact ⟨hwriter, by simp [hheld], (Option.some.inj h).symm⟩
  · simp_all
  · cases h

theorem step_close (h : s.step f patience .close = some t) :
    s.writer = .writing ∧ s.held = none ∧ s.queue = [] ∧
      (∀ pipe, (s.reader pipe).isDone = true) ∧ t = { s with writer := .finished } := by
  dsimp only [State.step] at h
  split at h
  · rename_i hover
    simp only [Bool.and_eq_true, decide_eq_true_eq, List.isEmpty_iff,
      Option.isNone_iff_eq_none] at hover
    obtain ⟨⟨⟨⟨hwriter, hheld⟩, hqueue⟩, hout⟩, herr⟩ := hover
    refine ⟨hwriter, hheld, hqueue, ?_, (Option.some.inj h).symm⟩
    rintro (_ | _)
    · exact hout
    · exact herr
  · cases h

/-! ### Moves of the wait -/

/-- The moves that have to do with the end of the emulator, and with nothing that it writes. -/
def Move.isWait : Move → Bool
  | .interrupt | .exit _ | .wake | .reap => true
  | _ => false

theorem step_interrupt (h : s.step f patience .interrupt = some t) :
    t = { s with interrupt := true } :=
  (Option.some.inj h).symm

theorem step_exit {result : Except Failure ExitStatus}
    (h : s.step f patience (.exit result) = some t) :
    s.child = none ∧ t = { s with child := some result } := by
  dsimp only [State.step] at h
  simp only [Option.isNone_iff_eq_none] at h
  split at h
  · rename_i hchild
    exact ⟨hchild, (Option.some.inj h).symm⟩
  · cases h

/-- A wait stops for an interrupt first, then for a failure of the sink, and then for the end of the
emulator. -/
theorem step_wake (h : s.step f patience .wake = some t) :
    s.stop = none ∧
      (s.interrupt = true ∧ t = { s with stop := some .interrupted, killed := true } ∨
        s.interrupt = false ∧ (∃ cause, s.writer = .failed cause) ∧
          t = { s with stop := some .aborted, killed := true } ∨
        s.interrupt = false ∧ (∀ cause, s.writer ≠ .failed cause) ∧
          ∃ result, s.child = some result ∧ t = { s with stop := some (.ended result) }) := by
  dsimp only [State.step] at h
  simp only [Option.isNone_iff_eq_none] at h
  split at h
  case isFalse => cases h
  case isTrue hstop =>
    refine ⟨hstop, ?_⟩
    rw [State.wake] at h
    split at h
    case isTrue hinterrupt => exact .inl ⟨hinterrupt, (Option.some.inj h).symm⟩
    case isFalse hinterrupt =>
      have hinterrupt : s.interrupt = false := by simpa using hinterrupt
      split at h
      case h_1 cause hwriter =>
        exact .inr (.inl ⟨hinterrupt, ⟨cause, hwriter⟩, (Option.some.inj h).symm⟩)
      case h_2 result hchild hwriter =>
        exact .inr (.inr ⟨hinterrupt, hwriter, result, hchild, (Option.some.inj h).symm⟩)
      case h_3 => cases h

theorem step_reap (h : s.step f patience .reap = some t) :
    s.killed = true ∧ t = { s with reaped := true } := by
  dsimp only [State.step] at h
  split at h
  · rename_i hkilled
    exact ⟨hkilled, (Option.some.inj h).symm⟩
  · cases h

theorem step_wait {m : Move} (hm : m.isWait = true) (h : s.step f patience m = some t) :
    t.out = s.out ∧ t.err = s.err ∧ t.queue = s.queue ∧ t.held = s.held ∧ t.writer = s.writer ∧
      t.written = s.written := by
  cases m with
  | read | send | receive | write | close => cases hm
  | interrupt =>
    cases step_interrupt h
    simp
  | exit result =>
    obtain ⟨-, rfl⟩ := step_exit h
    simp
  | wake =>
    obtain ⟨-, ⟨-, rfl⟩ | ⟨-, -, rfl⟩ | ⟨-, -, _, -, rfl⟩⟩ := step_wake h <;> simp
  | reap =>
    obtain ⟨-, rfl⟩ := step_reap h
    simp

end PxeLaunch.Supervision

import PxeLaunch.Proofs.Supervision.Record

/-!
Every supervision comes to its end. A move that changes anything uses up some of the work that is
ahead, so the parts cannot move on for ever; and they get stuck nowhere: once there is a reason to
stop waiting, they come to rest only with a result.
-/

set_option autoImplicit false

namespace PxeLaunch.Supervision

open Noise (Event Filter)

variable {f : Filter} {patience : Option Nat} {s t : State}

/-! ### The work that is ahead -/

/-- The work of a reader. A chunk that has not been read yet has to be read, sent, received and
written. -/
def Reader.work (r : Reader) : Nat :=
  3 * r.outbox.toList.length +
    if r.phase = .reading then 4 * Noise.weight r.unread + 1 else 0

def State.otherWork (s : State) : Nat :=
  2 * s.queue.length + s.held.toList.length + (if s.writer = .writing then 1 else 0) +
    (if s.stop.isNone then 1 else 0) + (if s.reaped then 0 else 1) +
    (if s.interrupt then 0 else 1) + if s.child.isNone then 1 else 0

def State.work (s : State) : Nat := s.out.work + s.err.work + s.otherWork

private theorem Reader.work_read_lt {r : Reader} (hphase : r.phase = .reading)
    (houtbox : r.outbox = none) : (r.read f patience).work < r.work := by
  cases hread : Noise.read patience r.unread with
  | chunk bytes rest =>
    have hless := Noise.weight_read_lt hread
    cases hempty : (f.chunk ⟨bytes, r.startsLine⟩ r.line).1.isEmpty <;>
      simp [Reader.work, Reader.read, hread, hphase, houtbox, hempty] <;> omega
  | ended => simp [Reader.work, Reader.read, hread, hphase, houtbox]
  | failed cause rest => simp [Reader.work, Reader.read, hread, hphase, houtbox]

private theorem State.work_withReader (s : State) (r : Reader) (pipe : Pipe) :
    (s.withReader r pipe).work + (s.reader pipe).work = s.work + r.work := by
  have hother : (s.withReader r pipe).otherWork = s.otherWork := by cases pipe <;> rfl
  simp only [State.work, hother]
  cases pipe <;> simp only [State.withReader, State.reader] <;> omega

private theorem State.work_concat {queue : List Bytes} (h : s.queue = queue) (bytes : Bytes) :
    ({ s with queue := queue ++ [bytes] } : State).work = s.work + 2 := by
  subst h
  simp only [State.work, State.otherWork, List.length_append, List.length_singleton]
  omega

/-- A move uses up work, unless it changes nothing. -/
theorem work_lt_of_step {m : Move} (h : s.step f patience m = some t) :
    t = s ∨ t.work < s.work := by
  cases m with
  | read pipe =>
    obtain ⟨hphase, houtbox, rfl⟩ := step_read h
    have hless : ((s.reader pipe).read f patience).work < (s.reader pipe).work :=
      Reader.work_read_lt hphase houtbox
    have hwork := s.work_withReader ((s.reader pipe).read f patience) pipe
    exact .inr (by omega)
  | send pipe =>
    -- A chunk leaves the outbox, where it counts three times, for the queue, where it counts twice.
    obtain ⟨bytes, houtbox, -, rfl⟩ := step_send h
    have hwork := s.work_withReader { s.reader pipe with outbox := none } pipe
    have hless : ({ s.reader pipe with outbox := none } : Reader).work + 3 =
        (s.reader pipe).work := by
      simp [Reader.work, houtbox]
      omega
    refine .inr (lt_of_eq_of_lt (State.work_concat (s.queue_withReader _ pipe) bytes) ?_)
    omega
  | receive =>
    obtain ⟨-, hheld, bytes, rest, hqueue, rfl⟩ := step_receive h
    refine .inr ?_
    simp only [State.work, State.otherWork, hheld, hqueue, List.length_cons, Option.toList_none,
      Option.toList_some, List.length_nil]
    omega
  | write failure =>
    cases failure with
    | none =>
      obtain ⟨-, bytes, hheld, rfl⟩ := step_write h
      exact .inr (by simp [State.work, State.otherWork, hheld])
    | some cause =>
      obtain ⟨hwriter, -, rfl⟩ := step_write_failing h
      exact .inr (by simp [State.work, State.otherWork, hwriter])
  | close =>
    obtain ⟨hwriter, -, -, -, rfl⟩ := step_close h
    exact .inr (by simp [State.work, State.otherWork, hwriter])
  | interrupt =>
    cases step_interrupt h
    cases hinterrupt : s.interrupt with
    | true => exact .inl (by rw [← hinterrupt])
    | false => exact .inr (by simp [State.work, State.otherWork, hinterrupt])
  | exit result =>
    obtain ⟨hchild, rfl⟩ := step_exit h
    exact .inr (by simp [State.work, State.otherWork, hchild])
  | wake =>
    obtain ⟨hstop, ⟨-, rfl⟩ | ⟨-, -, rfl⟩ | ⟨-, -, _, -, rfl⟩⟩ := step_wake h <;>
      exact .inr (by simp [State.work, State.otherWork, hstop])
  | reap =>
    obtain ⟨-, rfl⟩ := step_reap h
    cases hreaped : s.reaped with
    | true => exact .inl (by rw [← hreaped])
    | false => exact .inr (by simp [State.work, State.otherWork, hreaped])

/-! ### Moves that get on with the work -/

/-- The moves that the parts make by themselves. The others happen to them. -/
def Move.isOwn : Move → Bool
  | .write failure => failure.isNone
  | .interrupt | .exit _ => false
  | .read _ | .send _ | .receive | .close | .wake | .reap => true

/-- A move that can be made and uses up work. -/
def State.GetsOnBy (f : Filter) (patience : Option Nat) (s : State) (m : Move) : Prop :=
  ∃ t, s.step f patience m = some t ∧ t.work < s.work

private theorem getsOnBy_of_ne {m : Move} (h : s.step f patience m = some t) (hne : t ≠ s) :
    s.GetsOnBy f patience m :=
  ⟨t, h, (work_lt_of_step h).resolve_left hne⟩

section

variable (f patience)

private theorem getsOnBy_read (pipe : Pipe) (hphase : (s.reader pipe).phase = .reading)
    (houtbox : (s.reader pipe).outbox = none) : s.GetsOnBy f patience (.read pipe) := by
  have hless : ((s.reader pipe).read f patience).work < (s.reader pipe).work :=
    Reader.work_read_lt hphase houtbox
  have hwork := s.work_withReader ((s.reader pipe).read f patience) pipe
  exact ⟨s.withReader ((s.reader pipe).read f patience) pipe,
    by simp [State.step, hphase, houtbox], by omega⟩

private theorem getsOnBy_send (pipe : Pipe) (houtbox : ((s.reader pipe).outbox).isSome = true)
    (hqueue : s.queue = []) : s.GetsOnBy f patience (.send pipe) := by
  obtain ⟨bytes, hbytes⟩ := Option.isSome_iff_exists.mp houtbox
  have hstep : s.step f patience (.send pipe) =
      some { s.withReader { s.reader pipe with outbox := none } pipe with
        queue := s.queue ++ [bytes] } := by
    simp [State.step, hbytes, hqueue, capacity]
  exact getsOnBy_of_ne hstep fun hsame => by simpa using congrArg State.queue hsame

private theorem getsOnBy_receive (hwriter : s.writer = .writing) (hheld : s.held = none)
    (hqueue : s.queue ≠ []) : s.GetsOnBy f patience .receive := by
  obtain ⟨bytes, rest, hcons⟩ := List.exists_cons_of_ne_nil hqueue
  have hstep : s.step f patience .receive = some { s with queue := rest, held := some bytes } := by
    simp [State.step, hwriter, hheld, hcons]
  refine getsOnBy_of_ne hstep fun hsame => ?_
  simpa [hheld] using congrArg State.held hsame

private theorem getsOnBy_write (hwriter : s.writer = .writing) (hheld : s.held.isSome = true)
    (failure : Option Failure) : s.GetsOnBy f patience (.write failure) := by
  obtain ⟨bytes, hbytes⟩ := Option.isSome_iff_exists.mp hheld
  cases failure with
  | none =>
    have hstep : s.step f patience (.write none) =
        some { s with held := none, written := bytes :: s.written } := by
      simp [State.step, hwriter, hbytes]
    exact getsOnBy_of_ne hstep fun hsame => by simpa using congrArg State.written hsame
  | some cause =>
    have hstep : s.step f patience (.write (some cause)) =
        some { s with writer := .failed cause } := by
      simp [State.step, hwriter, hbytes]
    refine getsOnBy_of_ne hstep fun hsame => ?_
    simpa [hwriter] using congrArg State.writer hsame

private theorem getsOnBy_close (hwriter : s.writer = .writing) (hheld : s.held = none)
    (hqueue : s.queue = []) (hdone : ∀ pipe, (s.reader pipe).isDone = true) :
    s.GetsOnBy f patience .close := by
  have hstep : s.step f patience .close = some { s with writer := .finished } := by
    have hout : s.out.isDone = true := hdone .stdout
    have herr : s.err.isDone = true := hdone .stderr
    simp [State.step, hwriter, hheld, hqueue, hout, herr]
  refine getsOnBy_of_ne hstep fun hsame => ?_
  simpa [hwriter] using congrArg State.writer hsame

private theorem getsOnBy_wake (hstop : s.stop = none)
    (hreason : s.interrupt = true ∨ (∃ result, s.child = some result) ∨
      ∃ cause, s.writer = .failed cause) : s.GetsOnBy f patience .wake := by
  have hwake : ∃ t, s.wake = some t ∧ t.stop ≠ none := by
    rw [State.wake]
    split
    · exact ⟨_, rfl, by simp⟩
    · split
      · exact ⟨_, rfl, by simp⟩
      · exact ⟨_, rfl, by simp⟩
      · simp_all
  obtain ⟨t, ht, hne⟩ := hwake
  have hstep : s.step f patience .wake = some t := by simp [State.step, hstop, ht]
  exact getsOnBy_of_ne hstep fun hsame => hne (hsame ▸ hstop)

private theorem getsOnBy_reap (hkilled : s.killed = true) (hreaped : s.reaped = false) :
    s.GetsOnBy f patience .reap := by
  have hstep : s.step f patience .reap = some { s with reaped := true } := by
    simp [State.step, hkilled]
  refine getsOnBy_of_ne hstep fun hsame => ?_
  simpa [hreaped] using congrArg State.reaped hsame

private theorem getsOnBy_interrupt (hinterrupt : s.interrupt = false) :
    s.GetsOnBy f patience .interrupt := by
  have hstep : s.step f patience .interrupt = some { s with interrupt := true } := rfl
  refine getsOnBy_of_ne hstep fun hsame => ?_
  simpa [hinterrupt] using congrArg State.interrupt hsame

private theorem getsOnBy_exit (hchild : s.child = none) (result : Except Failure ExitStatus) :
    s.GetsOnBy f patience (.exit result) := by
  have hstep : s.step f patience (.exit result) = some { s with child := some result } := by
    simp [State.step, hchild]
  refine getsOnBy_of_ne hstep fun hsame => ?_
  simpa [hchild] using congrArg State.child hsame

private theorem getsOnBy_nextRead (hwriter : s.writer = .writing) (hheld : s.held = none)
    (hqueue : s.queue = []) : s.GetsOnBy f patience (nextRead s) := by
  rw [nextRead]
  split
  case isTrue hout => exact getsOnBy_send f patience .stdout hout hqueue
  case isFalse hout =>
    split
    case isTrue herr => exact getsOnBy_send f patience .stderr herr hqueue
    case isFalse herr =>
      have hout : s.out.outbox = none := by simpa using hout
      have herr : s.err.outbox = none := by simpa using herr
      split
      case isTrue hphase => exact getsOnBy_read f patience .stdout hphase hout
      case isFalse hreadout =>
        split
        case isTrue hphase => exact getsOnBy_read f patience .stderr hphase herr
        case isFalse hreaderr =>
          refine getsOnBy_close f patience hwriter hheld hqueue ?_
          rintro (_ | _)
          · simp [State.reader, Reader.isDone, hout, hreadout]
          · simp [State.reader, Reader.isDone, herr, hreaderr]

theorem nextRead_cases (s : State) :
    nextRead s = .close ∨ ∃ pipe, nextRead s = .send pipe ∨ nextRead s = .read pipe := by
  rw [nextRead]
  repeat' split
  · exact .inr ⟨.stdout, .inl rfl⟩
  · exact .inr ⟨.stderr, .inl rfl⟩
  · exact .inr ⟨.stdout, .inr rfl⟩
  · exact .inr ⟨.stderr, .inr rfl⟩
  · exact .inl rfl

/-- As long as the writer is writing, there is something to write, to receive, to send or to read,
or the writer can finish. -/
private theorem exists_getsOnBy_of_writing (hwriter : s.writer = .writing) :
    ∃ m, m.isOwn = true ∧ s.GetsOnBy f patience m := by
  cases hheld : s.held with
  | some bytes =>
    have hsome : s.held.isSome = true := by rw [hheld, Option.isSome_some]
    exact ⟨.write none, rfl, getsOnBy_write f patience hwriter hsome none⟩
  | none =>
    by_cases hqueue : s.queue = []
    · have hown : (nextRead s).isOwn = true := by
        obtain hclose | ⟨pipe, hsend | hread⟩ := nextRead_cases s
        · rw [hclose]
          rfl
        · rw [hsend]
          rfl
        · rw [hread]
          rfl
      exact ⟨nextRead s, hown, getsOnBy_nextRead f patience hwriter hheld hqueue⟩
    · exact ⟨.receive, rfl, getsOnBy_receive f patience hwriter hheld hqueue⟩

end

/-! ### Rest -/

/-- No part can do anything by itself that would change something. -/
def State.IsAtRest (f : Filter) (patience : Option Nat) (s : State) : Prop :=
  ∀ m t, m.isOwn = true → s.step f patience m = some t → t = s

private theorem State.IsAtRest.not_getsOnBy (h : s.IsAtRest f patience) {m : Move}
    (hm : m.isOwn = true) : ¬s.GetsOnBy f patience m := by
  rintro ⟨t, hstep, hless⟩
  rw [h m t hm hstep] at hless
  exact Nat.lt_irrefl _ hless

theorem exists_result?_eq_some {streams : Pipe → List Event} {past : List Move}
    (hs : Recorded streams past s) (hwriter : s.writer ≠ .writing) (hstop : s.stop ≠ none)
    (hreaped : s.killed = true → s.reaped = true) : ∃ result, s.result? = some result := by
  have hwaited : s.waited?.isSome = true := by
    match h : s.stop with
    | none => exact absurd h hstop
    | some .interrupted => simp [State.waited?, h, hreaped (hs.killed.mpr (.inl h))]
    | some .aborted => simp [State.waited?, h, hreaped (hs.killed.mpr (.inr h))]
    | some (.ended (.ok status)) => simp [State.waited?, h]
    | some (.ended (.error cause)) => simp [State.waited?, h]
  obtain ⟨waited, hwaited⟩ := Option.isSome_iff_exists.mp hwaited
  rw [State.result?, hwaited]
  cases hw : s.writer with
  | writing => exact absurd hw hwriter
  | failed cause => exact ⟨_, rfl⟩
  | finished => cases s.readFailure? <;> exact ⟨_, rfl⟩

/-- A supervision that has a reason to end comes to rest only with a result. -/
theorem State.IsAtRest.exists_result {streams : Pipe → List Event} {past : List Move}
    (h : s.IsAtRest f patience) (hs : Recorded streams past s)
    (hreason : .interrupt ∈ past ∨ (∃ result, .exit result ∈ past) ∨
      ∃ cause, .write (some cause) ∈ past) : ∃ result, s.result? = some result := by
  simp only [← hs.interrupt, ← hs.child, ← hs.sink] at hreason
  refine exists_result?_eq_some hs (fun hwriter => ?_)
    (fun hstop => h.not_getsOnBy rfl (getsOnBy_wake f patience hstop hreason)) fun hkilled => ?_
  · obtain ⟨m, hm, hgets⟩ := exists_getsOnBy_of_writing f patience hwriter
    exact h.not_getsOnBy hm hgets
  · cases hreaped : s.reaped with
    | true => rfl
    | false => exact absurd (getsOnBy_reap f patience hkilled hreaped) (h.not_getsOnBy rfl)

/-! ### The usual order of moves -/

section

variable (f patience) {budget : Option Nat} {interrupted : Bool} {status : ExitStatus}

private theorem nextMove_of_writing (hwriter : s.writer = .writing) :
    ∃ m, nextMove budget interrupted status s = some m ∧ s.GetsOnBy f patience m := by
  simp only [nextMove, hwriter, if_true]
  split
  case isTrue hheld => exact ⟨_, rfl, getsOnBy_write f patience hwriter hheld _⟩
  case isFalse hheld =>
    have hheld : s.held = none := by simpa using hheld
    split
    case isTrue hqueue =>
      exact ⟨_, rfl, getsOnBy_receive f patience hwriter hheld (by simpa using hqueue)⟩
    case isFalse hqueue =>
      have hqueue : s.queue = [] := by simpa using hqueue
      exact ⟨_, rfl, getsOnBy_nextRead f patience hwriter hheld hqueue⟩

theorem nextMove_cases (budget : Option Nat) (interrupted : Bool) (status : ExitStatus)
    (s : State) :
    (nextMove budget interrupted status s = none ∧ s.writer ≠ .writing ∧ s.stop ≠ none ∧
      (s.killed = true → s.reaped = true)) ∨
    ∃ m, nextMove budget interrupted status s = some m ∧ s.GetsOnBy f patience m := by
  by_cases hwriter : s.writer = .writing
  case pos => exact .inr (nextMove_of_writing f patience hwriter)
  simp only [nextMove, hwriter, if_false]
  cases hstop : s.stop with
  | some stop =>
    simp only
    split
    case isTrue hreap =>
      simp only [Bool.and_eq_true, Bool.not_eq_true'] at hreap
      exact .inr ⟨_, rfl, getsOnBy_reap f patience hreap.1 hreap.2⟩
    case isFalse hreap => exact .inl ⟨rfl, hwriter, by simp, by simpa using hreap⟩
  | none =>
    refine .inr ?_
    simp only
    split
    case isTrue hnext =>
      simp only [Bool.and_eq_true, Bool.not_eq_true'] at hnext
      exact ⟨_, rfl, getsOnBy_interrupt f patience hnext.2⟩
    case isFalse hinterrupt =>
      split
      case isTrue hnext =>
        simp only [Bool.and_eq_true, Option.isNone_iff_eq_none] at hnext
        exact ⟨_, rfl, getsOnBy_exit f patience hnext.2 _⟩
      case isFalse hchild =>
        refine ⟨_, rfl, getsOnBy_wake f patience hstop ?_⟩
        cases interrupted with
        | true => exact .inl (by simpa using hinterrupt)
        | false =>
          exact .inr (.inl (Option.isSome_iff_exists.mp (by
            simpa [Option.isSome_iff_ne_none] using hchild)))

theorem nextMove_drive (budget : Option Nat) (interrupted : Bool) (status : ExitStatus)
    {fuel : Nat} (h : s.work ≤ fuel) :
    nextMove budget interrupted status (drive f patience budget interrupted status fuel s) =
      none := by
  induction fuel generalizing s with
  | zero =>
    obtain ⟨hnone, -⟩ | ⟨m, -, t, -, hless⟩ :=
      nextMove_cases f patience budget interrupted status s
    · exact hnone
    · omega
  | succ fuel ih =>
    obtain ⟨hnone, -⟩ | ⟨m, hm, t, hstep, hless⟩ :=
      nextMove_cases f patience budget interrupted status s
    · simp [drive, hnone]
    · simp only [drive, hm, Option.bind_some, hstep]
      exact ih (by omega)

end

theorem work_start (out err : List Event) :
    (State.start out err).work = 4 * (Noise.weight out + Noise.weight err) + 7 := by
  simp [State.work, State.otherWork, State.start, Reader.work, Reader.start]
  omega

end PxeLaunch.Supervision

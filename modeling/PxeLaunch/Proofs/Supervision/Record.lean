import PxeLaunch.Proofs.Noise.Signal
import PxeLaunch.Proofs.Supervision.Move

/-!
What a supervision remembers. Its state knows of every failure of the sink and of the outputs, of an
interrupt and of the end of the emulator, and why it has stopped waiting. It forgets nothing of what
has happened, and makes nothing up.
-/

set_option autoImplicit false

namespace PxeLaunch.Supervision

open Noise (Event Filter)

variable {f : Filter} {patience : Option Nat}

/-- The failure that ends an output, as far as its reader can tell. -/
def Reader.failure? (r : Reader) : Option Failure :=
  match r.phase with
  | .reading => Noise.failure? r.unread
  | .ended => none
  | .failed cause => some cause

private theorem Reader.failure?_read {r : Reader} (hphase : r.phase = .reading) :
    (r.read f patience).failure? = r.failure? := by
  have hagrees := Noise.read_agrees patience r.unread
  cases hread : Noise.read patience r.unread with
  | chunk bytes rest =>
    rw [hread] at hagrees
    simpa [Reader.failure?, Reader.read, hread, hphase] using hagrees.2
  | ended =>
    rw [hread] at hagrees
    simpa [Reader.failure?, Reader.read, hread, hphase] using hagrees.2.symm
  | failed cause rest =>
    rw [hread] at hagrees
    simpa [Reader.failure?, Reader.read, hread, hphase] using hagrees.2.symm

/-- What a wait that is woken after some moves stops for: an interrupt comes before the failure of
the sink, and that before the end of the emulator. -/
def StopsFor (before : List Move) : Stop → Prop
  | .interrupted => .interrupt ∈ before
  | .aborted => .interrupt ∉ before ∧ ∃ cause, .write (some cause) ∈ before
  | .ended result =>
    .interrupt ∉ before ∧ (∀ cause, .write (some cause) ∉ before) ∧ .exit result ∈ before

/-- The wait stopped for this when it was woken in the course of some moves. -/
def StoppedFor (moves : List Move) (stop : Stop) : Prop :=
  ∃ before after, moves = before ++ .wake :: after ∧ StopsFor before stop

private theorem StoppedFor.append {moves : List Move} {stop : Stop} (h : StoppedFor moves stop)
    (more : List Move) : StoppedFor (moves ++ more) stop := by
  obtain ⟨before, after, rfl, hstop⟩ := h
  exact ⟨before, after ++ more, by simp, hstop⟩

/-- What the state of a supervision says about the moves that led to it. -/
structure Recorded (streams : Pipe → List Event) (past : List Move) (s : State) : Prop where
  outputs (pipe : Pipe) : (s.reader pipe).failure? = Noise.failure? (streams pipe)
  sink (cause : Failure) : s.writer = .failed cause ↔ .write (some cause) ∈ past
  interrupt : s.interrupt = true ↔ .interrupt ∈ past
  child (result : Except Failure ExitStatus) : s.child = some result ↔ .exit result ∈ past
  stopped (stop : Stop) : s.stop = some stop → StoppedFor past stop
  killed : s.killed = true ↔ s.stop = some .interrupted ∨ s.stop = some .aborted

/-! ### Steps -/

section Step

variable {streams : Pipe → List Event} {past : List Move} {s t : State}

theorem recorded_start (streams : Pipe → List Event) :
    Recorded streams [] (.start (streams .stdout) (streams .stderr)) where
  outputs pipe := by cases pipe <;> rfl
  sink cause := by simp [State.start]
  interrupt := by simp [State.start]
  child result := by simp [State.start]
  stopped stop h := by cases h
  killed := by simp [State.start]

def Move.isQuiet : Move → Bool
  | .write failure => failure.isNone
  | .interrupt | .exit _ | .wake => false
  | .read _ | .send _ | .receive | .close | .reap => true

private theorem Recorded.quiet (hs : Recorded streams past s) {m : Move} (hm : m.isQuiet = true)
    (houtputs : ∀ pipe, (t.reader pipe).failure? = (s.reader pipe).failure?)
    (hwriter : ∀ cause, t.writer = .failed cause ↔ s.writer = .failed cause)
    (hinterrupt : t.interrupt = s.interrupt) (hchild : t.child = s.child) (hstop : t.stop = s.stop)
    (hkilled : t.killed = s.killed) : Recorded streams (past ++ [m]) t where
  outputs pipe := (houtputs pipe).trans (hs.outputs pipe)
  sink cause := by
    have hne : Move.write (some cause) ≠ m := by
      rintro rfl
      cases hm
    simp [hwriter, hs.sink, hne]
  interrupt := by
    have hne : Move.interrupt ≠ m := by
      rintro rfl
      cases hm
    simp [hinterrupt, hs.interrupt, hne]
  child result := by
    have hne : Move.exit result ≠ m := by
      rintro rfl
      cases hm
    simp [hchild, hs.child, hne]
  stopped stop h := (hs.stopped stop (hstop ▸ h)).append [m]
  killed := by rw [hkilled, hstop, hs.killed]

private theorem Recorded.read (hs : Recorded streams past s) {pipe : Pipe}
    (h : s.step f patience (.read pipe) = some t) : Recorded streams (past ++ [.read pipe]) t := by
  obtain ⟨hphase, -, rfl⟩ := step_read h
  refine hs.quiet rfl (fun other => ?_) (by simp) (by simp) (by simp) (by simp) (by simp)
  by_cases hother : other = pipe
  · rw [hother, State.reader_withReader_self, Reader.failure?_read hphase]
  · rw [State.reader_withReader_of_ne s _ hother]

private theorem Recorded.send (hs : Recorded streams past s) {pipe : Pipe}
    (h : s.step f patience (.send pipe) = some t) : Recorded streams (past ++ [.send pipe]) t := by
  obtain ⟨bytes, -, -, rfl⟩ := step_send h
  refine hs.quiet rfl (fun other => ?_) (by simp) (by simp) (by simp) (by simp) (by simp)
  cases pipe <;> cases other <;> rfl

private theorem Recorded.write (hs : Recorded streams past s) {failure : Option Failure}
    (h : s.step f patience (.write failure) = some t) :
    Recorded streams (past ++ [.write failure]) t := by
  cases failure with
  | none =>
    obtain ⟨-, bytes, -, rfl⟩ := step_write h
    exact hs.quiet rfl (fun _ => rfl) (fun _ => .rfl) rfl rfl rfl rfl
  | some cause =>
    obtain ⟨hwriter, -, rfl⟩ := step_write_failing h
    have hnone (other : Failure) : .write (some other) ∉ past := by
      simp [← hs.sink, hwriter]
    exact ⟨hs.outputs, by simp [hnone, eq_comm], by simpa using hs.interrupt,
      by simpa using hs.child, fun stop hstop => (hs.stopped stop hstop).append _, hs.killed⟩

private theorem Recorded.exit (hs : Recorded streams past s)
    {result : Except Failure ExitStatus} (h : s.step f patience (.exit result) = some t) :
    Recorded streams (past ++ [.exit result]) t := by
  obtain ⟨hchild, rfl⟩ := step_exit h
  have hnone (other : Except Failure ExitStatus) : .exit other ∉ past := by
    simp [← hs.child, hchild]
  exact ⟨hs.outputs, by simpa using hs.sink, by simpa using hs.interrupt,
    by simp [hnone, eq_comm], fun stop hstop => (hs.stopped stop hstop).append _, hs.killed⟩

private theorem Recorded.wake (hs : Recorded streams past s)
    (h : s.step f patience .wake = some t) : Recorded streams (past ++ [.wake]) t := by
  obtain ⟨hstop, hwoken⟩ := step_wake h
  have hinterrupt : s.interrupt = false → .interrupt ∉ past := by
    rw [← hs.interrupt]
    simp
  obtain ⟨hnow, rfl⟩ | ⟨hnow, ⟨cause, hwriter⟩, rfl⟩ | ⟨hnow, hwriter, result, hchild, rfl⟩ :=
    hwoken
  · refine ⟨hs.outputs, by simpa using hs.sink, by simpa using hs.interrupt,
      by simpa using hs.child, fun stop heq => ?_, by simp⟩
    cases heq
    exact ⟨past, [], rfl, hs.interrupt.mp hnow⟩
  · refine ⟨hs.outputs, by simpa using hs.sink, by simpa using hs.interrupt,
      by simpa using hs.child, fun stop heq => ?_, by simp⟩
    cases heq
    exact ⟨past, [], rfl, hinterrupt hnow, cause, (hs.sink cause).mp hwriter⟩
  · refine ⟨hs.outputs, by simpa using hs.sink, by simpa using hs.interrupt,
      by simpa using hs.child, fun stop heq => ?_, by simp [hs.killed, hstop]⟩
    cases heq
    refine ⟨past, [], rfl, hinterrupt hnow, fun cause hcause => ?_, (hs.child result).mp hchild⟩
    exact hwriter cause ((hs.sink cause).mpr hcause)

private theorem Recorded.step (hs : Recorded streams past s) {m : Move}
    (h : s.step f patience m = some t) : Recorded streams (past ++ [m]) t := by
  cases m with
  | read pipe => exact hs.read h
  | send pipe => exact hs.send h
  | receive =>
    obtain ⟨-, -, bytes, rest, -, rfl⟩ := step_receive h
    exact hs.quiet rfl (fun _ => rfl) (fun _ => .rfl) rfl rfl rfl rfl
  | write failure => exact hs.write h
  | close =>
    obtain ⟨hwriter, -, -, -, rfl⟩ := step_close h
    exact hs.quiet rfl (fun _ => rfl) (by simp [hwriter]) rfl rfl rfl rfl
  | interrupt =>
    cases step_interrupt h
    exact ⟨hs.outputs, by simpa using hs.sink, by simp, by simpa using hs.child,
      fun stop hstop => (hs.stopped stop hstop).append _, hs.killed⟩
  | exit result => exact hs.exit h
  | wake => exact hs.wake h
  | reap =>
    obtain ⟨-, rfl⟩ := step_reap h
    exact hs.quiet rfl (fun _ => rfl) (fun _ => .rfl) rfl rfl rfl rfl

theorem Recorded.steps (hs : Recorded streams past s) {moves : List Move}
    (h : s.steps f patience moves = some t) : Recorded streams (past ++ moves) t := by
  induction moves generalizing s past with
  | nil =>
    cases h
    rwa [List.append_nil]
  | cons m rest ih =>
    obtain ⟨next, hstep, hrest⟩ := Option.bind_eq_some_iff.mp h
    simpa using ih (hs.step hstep) hrest

end Step

end PxeLaunch.Supervision

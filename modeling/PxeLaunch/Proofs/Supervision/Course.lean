import PxeLaunch.Proofs.Supervision.Result

/-!
Supervisions from start to end. A course is an order of moves that has come to a result, and the
result is told by whether everything was written and by what the wait stopped for. The usual order
of moves is a course; when nothing disturbs it, it comes to what the emulator comes to.
-/

set_option autoImplicit false

namespace PxeLaunch.Supervision

open Noise (Event Filter)

variable {f : Filter} {patience : Option Nat}

private theorem Interleaving.length_eq {α : Type} {xs ys zs : List α} (h : Interleaving xs ys zs) :
    zs.length = xs.length + ys.length := by
  induction h with
  | nil => rfl
  | left _ ih | right _ ih =>
    simp only [List.length_cons, ih]
    omega

private theorem Delivered.not_interleaving_written {out err : List Event}
    {sent : List (Pipe × Bytes)} {tried : Nat} {s : State}
    (hs : Delivered f patience (streamOf out err) sent tried s) {cause : Failure}
    (hfailed : s.writer = .failed cause) :
    ¬Interleaving (passed f patience out) (passed f patience err) s.written.reverse := by
  intro hall
  obtain ⟨chunk, hheld⟩ := Option.isSome_iff_exists.mp (hs.failed cause hfailed).1
  have hout := congrArg List.length (hs.order .stdout)
  have herr := congrArg List.length (hs.order .stderr)
  have hsent := congrArg List.length hs.kept
  rw [(interleaving_fromPipe sent).length_eq] at hsent
  have hwritten := hall.length_eq
  simp only [streamOf, hheld, Option.toList_some, List.length_append, List.length_cons,
    List.length_reverse] at *
  omega

/-- A supervision that has come to a result, in some order of moves. -/
structure Course (f : Filter) (patience : Option Nat) where
  out : List Event
  err : List Event
  moves : List Move
  last : State
  result : Except LaunchError Outcome
  steps_eq : (State.start out err).steps f patience moves = some last
  result_eq : last.result? = some result

namespace Course

def supervised (c : Course f patience) : Supervised := ⟨c.last.written.reverse, c.result⟩

/-- Both outputs were read to their ends, and all that they pass on was written. -/
def WritesAll (c : Course f patience) : Prop :=
  Noise.failure? c.out = none ∧ Noise.failure? c.err = none ∧
    Interleaving (passed f patience c.out) (passed f patience c.err) c.supervised.written

variable {c : Course f patience}

private theorem exists_stop (c : Course f patience) :
    ∃ stop, c.last.stop = some stop ∧ StoppedFor c.moves stop ∧
      IsVerdict c.out c.err c.moves stop c.result :=
  isVerdict_of_result? c.steps_eq c.result_eq

private theorem writesAll_iff (c : Course f patience) :
    c.WritesAll ↔ Noise.failure? c.out = none ∧ Noise.failure? c.err = none ∧
      ∀ cause, .write (some cause) ∉ c.moves := by
  have hdelivered := delivered_of_steps c.steps_eq
  have hrecorded := recorded_of_steps c.steps_eq
  refine and_congr_right fun _ => and_congr_right fun _ => ?_
  simp only [← hrecorded.sink]
  constructor
  · intro hall cause hfailed
    exact hdelivered.not_interleaving_written hfailed hall
  · intro hsink
    exact hdelivered.interleaving_written (State.writer_of_result? c.result_eq hsink)

/-! ### What a course comes to -/

theorem result_of_not_writesAll (h : ¬c.WritesAll) :
    ∃ cause, c.result = .error (.stream cause) := by
  obtain ⟨stop, -, -, hverdict⟩ := c.exists_stop
  by_cases hsink : ∃ cause, .write (some cause) ∈ c.moves
  · obtain ⟨cause, hcause⟩ := hsink
    exact ⟨cause, hverdict.sink cause hcause⟩
  · have hsink := not_exists.mp hsink
    have hfailure : (Noise.failure? c.out).or (Noise.failure? c.err) ≠ none := by
      intro hnone
      obtain ⟨hout, herr⟩ := Option.or_eq_none_iff.mp hnone
      exact h (c.writesAll_iff.mpr ⟨hout, herr, hsink⟩)
    obtain ⟨cause, hcause⟩ := Option.ne_none_iff_exists'.mp hfailure
    exact ⟨cause, hverdict.output cause hsink hcause⟩

theorem result_of_interrupted (h : c.WritesAll) (hstop : c.last.stop = some .interrupted) :
    c.result = .ok .interrupted := by
  obtain ⟨stop, hlast, -, hverdict⟩ := c.exists_stop
  obtain ⟨hout, herr, hsink⟩ := c.writesAll_iff.mp h
  exact hverdict.interrupted hsink hout herr (Option.some.inj (hlast.symm.trans hstop))

theorem result_of_ended {ending : Except Failure ExitStatus} (h : c.WritesAll)
    (hstop : c.last.stop = some (.ended ending)) : c.result = outcomeOf ending := by
  obtain ⟨stop, hlast, -, hverdict⟩ := c.exists_stop
  obtain ⟨hout, herr, hsink⟩ := c.writesAll_iff.mp h
  exact hverdict.ended ending hsink hout herr (Option.some.inj (hlast.symm.trans hstop))

/-- The wait of a course in which all is written stopped for an interrupt or for the end of the
emulator, which had come by then. -/
theorem stop_cases (h : c.WritesAll) :
    c.last.stop = some .interrupted ∧ .interrupt ∈ c.moves ∨
      ∃ ending, c.last.stop = some (.ended ending) ∧ .exit ending ∈ c.moves := by
  obtain ⟨-, -, hsink⟩ := c.writesAll_iff.mp h
  obtain ⟨stop, hlast, hstopped, -⟩ := c.exists_stop
  match stop with
  | .interrupted => exact .inl ⟨hlast, hstopped.mem_interrupt⟩
  | .aborted =>
    obtain ⟨cause, hcause⟩ := hstopped.exists_mem_write
    exact absurd hcause (hsink cause)
  | .ended ending =>
    obtain ⟨before, after, hmoves, -, -, hexit⟩ := hstopped
    exact .inr ⟨ending, hlast, hmoves ▸ List.mem_append_left _ hexit⟩

end Course

/-! ### The usual order of moves -/

private theorem exists_course_supervise (f : Filter) (patience : Option Nat) (around : Surroundings)
    (run : Run) : ∃ c : Course f patience, c.supervised = supervise f patience around run ∧
      (∀ pipe, streamOf c.out c.err pipe = eventsOf pipe (seen f patience around run)) ∧
      ∀ m ∈ c.moves, ∃ t, nextMove around.budget
        (interruptedAt? f patience around.trigger run.activities).isSome run.status t = some m := by
  let out := eventsOf .stdout (seen f patience around run)
  let err := eventsOf .stderr (seen f patience around run)
  let interrupted := (interruptedAt? f patience around.trigger run.activities).isSome
  let fuel := 4 * (Noise.weight out + Noise.weight err) + 16
  let last := drive f patience around.budget interrupted run.status fuel (.start out err)
  obtain ⟨moves, hmoves, husual⟩ :=
    exists_steps_drive f patience around.budget interrupted run.status fuel (.start out err)
  have hwork : (State.start out err).work ≤ fuel := by
    rw [work_start]
    omega
  have hnone := nextMove_drive f patience around.budget interrupted run.status hwork
  obtain ⟨-, hwriter, hstop, hreaped⟩ | ⟨m, hm, -⟩ :=
    nextMove_cases f patience around.budget interrupted run.status last
  · obtain ⟨result, hresult⟩ :=
      exists_result?_eq_some (recorded_of_steps hmoves) hwriter hstop hreaped
    have hsupervise : supervise f patience around run =
        ⟨last.written.reverse, last.result?.getD (.ok .interrupted)⟩ := rfl
    refine ⟨⟨out, err, moves, last, result, hmoves, hresult⟩, ?_, ?_, husual⟩
    · rw [hsupervise, hresult]
      rfl
    · rintro (_ | _) <;> rfl
  · rw [hnone] at hm
    cases hm

private theorem failure?_eventsOf (pipe : Pipe) (activities : List Activity) :
    Noise.failure? (eventsOf pipe activities) = none := by
  induction activities with
  | nil => rfl
  | cons a rest ih =>
    cases a with
    | writes p bytes => by_cases hp : p = pipe <;> simpa [eventsOf, hp, Noise.failure?] using ih
    | rests ms => simpa [eventsOf, Noise.failure?] using ih

private theorem nextMove_undisturbed {status : ExitStatus} {s : State} {m : Move}
    (h : nextMove none false status s = some m) :
    m ≠ .interrupt ∧ (∀ cause, m ≠ .write (some cause)) ∧
      ∀ ending, m = .exit ending → ending = .ok status := by
  have hread : nextRead s ≠ .interrupt ∧ (∀ failure, nextRead s ≠ .write failure) ∧
      ∀ ending, nextRead s ≠ .exit ending := by
    obtain hclose | ⟨pipe, hsend | hread⟩ := nextRead_cases s <;> simp [*]
  simp only [nextMove, Bool.false_and, Bool.false_eq_true, if_false, Option.any_none] at h
  repeat' split at h
  all_goals cases h
  all_goals simp [hread, eq_comm]

/-- An undisturbed supervision writes everything and comes to what the emulator comes to. -/
theorem exists_course_undisturbed (f : Filter) (patience : Option Nat) (run : Run) :
    ∃ c : Course f patience, c.supervised = supervise f patience ⟨none, none⟩ run ∧
      c.WritesAll ∧ c.last.stop = some (.ended (.ok run.status)) ∧
      ∀ ending, .exit ending ∈ c.moves → ending = .ok run.status := by
  obtain ⟨c, hsupervised, houtputs, husual⟩ := exists_course_supervise f patience ⟨none, none⟩ run
  have husual (m : Move) (hm : m ∈ c.moves) :=
    let ⟨_, hnext⟩ := husual m hm
    nextMove_undisturbed hnext
  have hfailure (pipe : Pipe) : Noise.failure? (streamOf c.out c.err pipe) = none := by
    rw [houtputs, failure?_eventsOf]
  have hall : c.WritesAll := c.writesAll_iff.mpr ⟨hfailure .stdout, hfailure .stderr,
    fun cause hcause => (husual _ hcause).2.1 cause rfl⟩
  refine ⟨c, hsupervised, hall, ?_, fun ending hexit => (husual _ hexit).2.2 ending rfl⟩
  obtain ⟨-, hinterrupt⟩ | ⟨ending, hstop, hexit⟩ := Course.stop_cases hall
  · exact absurd rfl (husual _ hinterrupt).1
  · rw [hstop, (husual _ hexit).2.2 ending rfl]

end PxeLaunch.Supervision

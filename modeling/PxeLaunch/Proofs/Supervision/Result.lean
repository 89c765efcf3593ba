import PxeLaunch.Proofs.Supervision.Delivery
import PxeLaunch.Proofs.Supervision.Progress

/-!
What a supervision comes to. Whatever the order of the moves, a failure of the sink counts before a
failure of an output, and that before what the wait stopped for. Main statement: the result follows
this order of precedence, the emulator is killed when it has to be, and there always is a result in
the end.
-/

set_option autoImplicit false

namespace PxeLaunch.Supervision

open Noise (Event Filter)

variable {f : Filter} {patience : Option Nat} {s : State} {result : Except LaunchError Outcome}

/-! ### The parts of a result -/

def outcomeOf : Except Failure ExitStatus → Except LaunchError Outcome
  | .ok (.exited code) => .ok (.exited code)
  | .ok (.killed signal) => .ok (.signalled signal)
  | .error cause => .error (.stream cause)

private theorem outcomeOf_ne_interrupted (ending : Except Failure ExitStatus) :
    outcomeOf ending ≠ .ok .interrupted := by
  rcases ending with cause | code | signal <;> simp [outcomeOf]

private theorem State.result?_cases (h : s.result? = some result) :
    ∃ waited, s.waited? = some waited ∧
      ((∃ cause, s.writer = .failed cause ∧ result = .error (.stream cause)) ∨
        s.writer = .finished ∧
          ((∃ cause, s.readFailure? = some cause ∧ result = .error (.stream cause)) ∨
            s.readFailure? = none ∧ result = waited)) := by
  cases hwaited : s.waited? with
  | none => simp [State.result?, hwaited] at h
  | some waited =>
    refine ⟨waited, rfl, ?_⟩
    cases hwriter : s.writer with
    | writing => simp [State.result?, hwaited, hwriter] at h
    | failed cause =>
      simp only [State.result?, hwaited, hwriter, Option.some.injEq] at h
      exact .inl ⟨cause, rfl, h.symm⟩
    | finished =>
      simp only [State.result?, hwaited, hwriter] at h
      cases hread : s.readFailure? with
      | some cause =>
        simp only [hread, Option.some.injEq] at h
        exact .inr ⟨rfl, .inl ⟨cause, rfl, h.symm⟩⟩
      | none =>
        simp only [hread, Option.some.injEq] at h
        exact .inr ⟨rfl, .inr ⟨rfl, h.symm⟩⟩

/-- A wait that is over was stopped by something, and an emulator that was killed counts as
interrupted. -/
private theorem State.waited?_cases (h : s.waited? = some result) :
    (s.stop = some .interrupted ∨ s.stop = some .aborted) ∧ result = .ok .interrupted ∨
      ∃ ending, s.stop = some (.ended ending) ∧ result = outcomeOf ending := by
  rw [State.waited?] at h
  split at h
  · cases h
  · next status hstop =>
    refine .inr ⟨_, hstop, ?_⟩
    cases status <;> exact (Option.some.inj h).symm
  · next cause hstop => exact .inr ⟨_, hstop, (Option.some.inj h).symm⟩
  · next hstop =>
    split at h
    · exact .inl ⟨.inl hstop, (Option.some.inj h).symm⟩
    · cases h
  · next hstop =>
    split at h
    · exact .inl ⟨.inr hstop, (Option.some.inj h).symm⟩
    · cases h

private theorem State.readFailure?_of_isDone (h : ∀ pipe, (s.reader pipe).isDone = true) :
    s.readFailure? = (s.reader .stdout).failure?.or (s.reader .stderr).failure? := by
  have hout := h .stdout
  have herr := h .stderr
  simp only [State.reader, Reader.isDone, Bool.and_eq_true, bne_iff_ne] at hout herr
  simp only [State.readFailure?, Reader.failure?, State.reader]
  cases ho : s.out.phase <;> cases he : s.err.phase <;> simp_all

/-! ### Precedence -/

/-- What the result has to be after some moves, if the wait was stopped by `stop`. -/
structure IsVerdict (out err : List Event) (moves : List Move) (stop : Stop)
    (result : Except LaunchError Outcome) : Prop where
  sink (cause : Failure) : .write (some cause) ∈ moves → result = .error (.stream cause)
  output (cause : Failure) : (∀ other, .write (some other) ∉ moves) →
    (Noise.failure? out).or (Noise.failure? err) = some cause → result = .error (.stream cause)
  interrupted : (∀ other, .write (some other) ∉ moves) → Noise.failure? out = none →
    Noise.failure? err = none → stop = .interrupted → result = .ok .interrupted
  ended (ending : Except Failure ExitStatus) : (∀ other, .write (some other) ∉ moves) →
    Noise.failure? out = none → Noise.failure? err = none → stop = .ended ending →
    result = outcomeOf ending
  aborted : stop = .aborted → ∃ cause, result = .error (.stream cause)
  onlyInterrupted : result = .ok .interrupted → stop = .interrupted ∧ .interrupt ∈ moves

section Run

variable {out err : List Event} {moves : List Move}

theorem recorded_of_steps (h : (State.start out err).steps f patience moves = some s) :
    Recorded (streamOf out err) moves s := by
  simpa using (recorded_start (streamOf out err)).steps h

theorem StoppedFor.mem_interrupt (h : StoppedFor moves .interrupted) : .interrupt ∈ moves := by
  obtain ⟨before, after, rfl, hinterrupt⟩ := h
  exact List.mem_append_left _ hinterrupt

theorem StoppedFor.exists_mem_write (h : StoppedFor moves .aborted) :
    ∃ cause, .write (some cause) ∈ moves := by
  obtain ⟨before, after, rfl, -, cause, hcause⟩ := h
  exact ⟨cause, List.mem_append_left _ hcause⟩

private theorem Recorded.eq_of_mem_write {streams : Pipe → List Event}
    (hs : Recorded streams moves s) {cause other : Failure} (hcause : .write (some cause) ∈ moves)
    (hother : .write (some other) ∈ moves) : cause = other := by
  have hfailed := (hs.sink cause).mpr hcause
  rw [(hs.sink other).mpr hother] at hfailed
  cases hfailed
  rfl

private theorem IsVerdict.of_sink {stop : Stop} {cause : Failure}
    (hcause : .write (some cause) ∈ moves)
    (honly : ∀ other, .write (some other) ∈ moves → other = cause) :
    IsVerdict out err moves stop (.error (.stream cause)) where
  sink other hother := by rw [honly other hother]
  output _ hnone := absurd hcause (hnone cause)
  interrupted hnone := absurd hcause (hnone cause)
  ended _ hnone := absurd hcause (hnone cause)
  aborted _ := ⟨cause, rfl⟩
  onlyInterrupted := by simp

private theorem IsVerdict.of_output {stop : Stop} {cause : Failure}
    (hnone : ∀ other, .write (some other) ∉ moves) (hstop : stop ≠ .aborted)
    (hcause : (Noise.failure? out).or (Noise.failure? err) = some cause) :
    IsVerdict out err moves stop (.error (.stream cause)) where
  sink other hother := absurd hother (hnone other)
  output other _ hother := by rw [Option.some.inj (hcause.symm.trans hother)]
  interrupted _ hout herr := by simp [hout, herr] at hcause
  ended _ _ hout herr := by simp [hout, herr] at hcause
  aborted haborted := absurd haborted hstop
  onlyInterrupted := by simp

private theorem IsVerdict.of_interrupt (hnone : ∀ other, .write (some other) ∉ moves)
    (hunfailed : (Noise.failure? out).or (Noise.failure? err) = none)
    (hinterrupt : .interrupt ∈ moves) :
    IsVerdict out err moves .interrupted (.ok .interrupted) where
  sink other hother := absurd hother (hnone other)
  output other _ hother := by simp [hother] at hunfailed
  interrupted _ _ _ _ := rfl
  ended _ _ _ _ hended := by cases hended
  aborted haborted := by cases haborted
  onlyInterrupted _ := ⟨rfl, hinterrupt⟩

private theorem IsVerdict.of_end (hnone : ∀ other, .write (some other) ∉ moves)
    (hunfailed : (Noise.failure? out).or (Noise.failure? err) = none)
    (ending : Except Failure ExitStatus) :
    IsVerdict out err moves (.ended ending) (outcomeOf ending) where
  sink other hother := absurd hother (hnone other)
  output other _ hother := by simp [hother] at hunfailed
  interrupted _ _ _ hinterrupted := by cases hinterrupted
  ended _ _ _ _ hended := by
    cases hended
    rfl
  aborted haborted := by cases haborted
  onlyInterrupted hinterrupted := absurd hinterrupted (outcomeOf_ne_interrupted ending)

theorem isVerdict_of_result? (h : (State.start out err).steps f patience moves = some s)
    (hresult : s.result? = some result) :
    ∃ stop, s.stop = some stop ∧ StoppedFor moves stop ∧
      IsVerdict out err moves stop result := by
  have hs := recorded_of_steps h
  obtain ⟨waited, hwaited, ⟨cause, hwriter, rfl⟩ | ⟨hwriter, hrest⟩⟩ := State.result?_cases hresult
  · -- The sink has failed, and nothing else counts.
    have hcause := (hs.sink cause).mp hwriter
    obtain ⟨stop, hstop⟩ : ∃ stop, s.stop = some stop := by
      obtain ⟨hstop | hstop, -⟩ | ⟨_, hstop, -⟩ := State.waited?_cases hwaited <;> exact ⟨_, hstop⟩
    exact ⟨stop, hstop, hs.stopped stop hstop,
      .of_sink hcause fun other hother => hs.eq_of_mem_write hother hcause⟩
  · -- The sink has taken everything, so the readers are through and nothing was aborted.
    have hnone (cause : Failure) : .write (some cause) ∉ moves := by simp [← hs.sink, hwriter]
    have hread : s.readFailure? = (Noise.failure? out).or (Noise.failure? err) := by
      rw [State.readFailure?_of_isDone ((delivered_of_steps h).finished hwriter).2.2, hs.outputs,
        hs.outputs]
      rfl
    have hunaborted : s.stop ≠ some .aborted := by
      intro haborted
      obtain ⟨cause, hcause⟩ := (hs.stopped _ haborted).exists_mem_write
      exact hnone cause hcause
    rw [hread] at hrest
    obtain ⟨hstop | hstop, rfl⟩ | ⟨ending, hstop, rfl⟩ := State.waited?_cases hwaited
    · have hstopped := hs.stopped _ hstop
      refine ⟨_, hstop, hstopped, ?_⟩
      obtain ⟨cause, hcause, rfl⟩ | ⟨hunfailed, rfl⟩ := hrest
      · exact .of_output hnone (by simp) hcause
      · exact .of_interrupt hnone hunfailed hstopped.mem_interrupt
    · exact absurd hstop hunaborted
    · refine ⟨_, hstop, hs.stopped _ hstop, ?_⟩
      obtain ⟨cause, hcause, rfl⟩ | ⟨hunfailed, rfl⟩ := hrest
      · exact .of_output hnone (by simp) hcause
      · exact .of_end hnone hunfailed ending

/-- Whatever the order of the moves: a failure of the sink is the result if there is one, then a
failure of an output, and then what the wait stopped for, which was the first of interrupt, failure
of the sink and end of the emulator that there was when it was woken. The emulator has been killed
if and only if the wait stopped for one of the first two. There is a result when nothing moves any
more, if anything has happened that ends a supervision; and no order of moves goes on for ever. -/
theorem result_by_precedence (h : (State.start out err).steps f patience moves = some s) :
    (∀ result, s.result? = some result → ∃ stop, s.stop = some stop ∧ StoppedFor moves stop ∧
      IsVerdict out err moves stop result) ∧
    (s.killed = true ↔ s.stop = some .interrupted ∨ s.stop = some .aborted) ∧
    (s.IsAtRest f patience → (.interrupt ∈ moves ∨ (∃ ending, .exit ending ∈ moves) ∨
      ∃ cause, .write (some cause) ∈ moves) → ∃ result, s.result? = some result) ∧
    ∀ m t, s.step f patience m = some t → t = s ∨ t.work < s.work := by
  have hs := recorded_of_steps h
  exact ⟨fun result hresult => isVerdict_of_result? h hresult, hs.killed,
    fun hrest => hrest.exists_result hs, fun m t hstep => work_lt_of_step hstep⟩

end Run

/-- The sink fails after an interrupt, and an output fails as well. -/
theorem result_by_precedence_interrupted :
    let out : List Event := [.data (Bytes.ofString "login:\n"), .failed .denied]
    ∃ moves s, (State.start out []).steps .passthrough (some 100) moves = some s ∧
      .interrupt ∈ moves ∧ .write (some .brokenPipe) ∈ moves ∧ Noise.failure? out = some .denied ∧
      s.result? = some (.error (.stream .brokenPipe)) ∧ s.killed = true := by
  intro out
  let moves : List Move := [.read .stdout, .interrupt, .send .stdout, .wake, .receive,
    .read .stdout, .write (some .brokenPipe), .exit (.ok (.killed 9)), .reap]
  have hrun : ((State.start out []).steps .passthrough (some 100) moves).map
      (fun s => (s.result?.isSome, s.killed)) = some (true, true) := by
    decide +kernel
  obtain ⟨s, hsteps, hend⟩ := Option.map_eq_some_iff.mp hrun
  obtain ⟨hended, hkilled⟩ := Prod.mk.inj hend
  obtain ⟨result, hresult⟩ := Option.isSome_iff_exists.mp hended
  have hwrite : Move.write (some .brokenPipe) ∈ moves := by simp [moves]
  obtain ⟨hverdict, -⟩ := result_by_precedence hsteps
  obtain ⟨stop, -, -, hstop⟩ := hverdict result hresult
  rw [hstop.sink .brokenPipe hwrite] at hresult
  exact ⟨moves, s, hsteps, by simp [moves], hwrite, rfl, hresult, hkilled⟩

end PxeLaunch.Supervision

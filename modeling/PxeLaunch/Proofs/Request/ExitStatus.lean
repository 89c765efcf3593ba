import PxeLaunch.Proofs.Request.Attempt
import PxeLaunch.Proofs.Request.CommandLine
import PxeLaunch.Proofs.Request.ErrorCode
import PxeLaunch.Proofs.Supervision.Course

/-!
The status that a run exits with. A run ends in one of a few ways, and each way has its status; a
host sees the last eight bits of it. Main statement: however a run is supervised, its status is that
of the way it ends, and it is zero only for an emulator that ends well, all of whose output was
written.
-/

set_option autoImplicit false

namespace PxeLaunch

open Supervision (Course outcomeOf)

/-- A status that the usual systems report. -/
def ExitStatus.IsPosix : ExitStatus → Prop
  | .exited code => code ≤ 255
  | .killed signal => 1 ≤ signal ∧ signal ≤ 127

/-- The status that a host sees of whoever exits with a response. -/
def Response.status (r : Response) : Nat := (r.exitCode % 256).toNat

/-! ### Endings -/

/-- How a run ends: at the first step that it cannot take, or with the emulator. A build ends
without a status if the toolchain cannot be started. -/
inductive Ending where
  | unresolved
  | unbuilt (status : Option ExitStatus)
  | unstarted
  | unfinished
  | interrupted
  | ended (status : ExitStatus)
  deriving DecidableEq

namespace Ending

def status : Ending → Nat
  | .unbuilt (some (.exited code)) => code
  | .interrupted => 130
  | .ended (.exited code) => code
  | .ended (.killed signal) => 128 + signal
  | .unresolved | .unbuilt _ | .unstarted | .unfinished => 1

/-- An ending that a host can report, and that is a failure if it is one of the toolchain's. -/
def IsPosix : Ending → Prop
  | .unbuilt (some s) => s.IsPosix ∧ s ≠ .exited 0
  | .ended s => s.IsPosix
  | _ => True

variable {e : Ending}

private theorem status_mod (h : e.IsPosix) : e.status % 256 = e.status := by
  apply Nat.mod_eq_of_lt
  match e, h with
  | .unbuilt (some (.exited code)), h | .ended (.exited code), h =>
    simp only [IsPosix, ExitStatus.IsPosix] at h
    simp only [status]
    omega
  | .ended (.killed signal), h =>
    simp only [IsPosix, ExitStatus.IsPosix] at h
    simp only [status]
    omega
  | .unresolved, _ | .unbuilt none, _ | .unbuilt (some (.killed _)), _ | .unstarted, _
  | .unfinished, _ | .interrupted, _ => simp [status]

private theorem status_eq_zero (h : e.IsPosix) : e.status = 0 ↔ e = .ended (.exited 0) := by
  match e, h with
  | .unbuilt (some (.exited code)), h =>
    simp only [IsPosix, ne_eq, ExitStatus.exited.injEq] at h
    simp [status, h.2]
  | .ended (.exited code), _ => simp [status]
  | .ended (.killed signal), _ => simp [status]
  | .unresolved, _ | .unbuilt none, _ | .unbuilt (some (.killed _)), _ | .unstarted, _
  | .unfinished, _ | .interrupted, _ => simp [status]

end Ending

/-! ### The toolchain -/

section

variable {host : Host} {files : Files} {t : Toolchain} {p : Profile}

private theorem Toolchain.result_of_execute_error {cause : Failure}
    (h : host.execute files (t.command p) = .error cause) :
    ∃ text, (t.build host files p).result = .error (.buildFailed p.architecture none text) := by
  simp only [build, h, Except.error.injEq, LaunchError.buildFailed.injEq, true_and, exists_eq']

private theorem Toolchain.result_of_execute_ok {run : Run}
    (h : host.execute files (t.command p) = .ok run) :
    (t.build host files p).result =
      t.verdict p run.status (Utf8.decodeLossy (run.written .stderr)) := by
  simp only [build, h]

private theorem Toolchain.exists_verdict_error {status : ExitStatus} (h : status ≠ .exited 0)
    (stderr : String) : ∃ cause, t.verdict p status stderr = .error cause ∧
      cause.exitCode = (Ending.unbuilt (some status)).status := by
  match status, h with
  | .exited 0, h => exact absurd rfl h
  | .exited (code + 1), _ =>
    refine ⟨_, rfl, ?_⟩
    simp only [LaunchError.exitCode, Ending.status]
    rw [if_neg (by omega)]
  | .killed signal, _ => exact ⟨_, rfl, rfl⟩

end

/-! ### The ending of a run -/

def Courses : Type :=
  (o : Launch) → (f : Noise.Filter) → Run → Course f (some o.settings.idleFlush)

def Courses.supervisor (courses : Courses) (o : Launch) : Launch.Supervisor :=
  fun f process => (courses o f process).supervised

def Host.IsPosix (h : Host) : Prop :=
  ∀ files command run, h.execute files command = .ok run → run.status.IsPosix

namespace Courses

/-- The end of a process is seen with a status that the usual systems report, if the process has
one. -/
def IsPosix (courses : Courses) : Prop :=
  ∀ o f process, process.status.IsPosix →
    ∀ status, .exit (.ok status) ∈ (courses o f process).moves → status.IsPosix

/-- The courses of the usual supervision, which writes everything and sees each process end. -/
structure IsUsual (courses : Courses) : Prop where
  supervised_eq (o : Launch) (f : Noise.Filter) (process : Run) :
    (courses o f process).supervised = o.supervisor ⟨none, none⟩ f process
  writesAll (o : Launch) (f : Noise.Filter) (process : Run) : (courses o f process).WritesAll
  stop_eq (o : Launch) (f : Noise.Filter) (process : Run) :
    (courses o f process).last.stop = some (.ended (.ok process.status))
  exit_eq (o : Launch) (f : Noise.Filter) (process : Run) (ending : Except Failure ExitStatus) :
    .exit ending ∈ (courses o f process).moves → ending = .ok process.status

private theorem exists_isUsual : ∃ courses : Courses, courses.IsUsual := by
  have h (o : Launch) (f : Noise.Filter) (process : Run) :=
    Supervision.exists_course_undisturbed f (some o.settings.idleFlush) process
  choose courses hsupervised hwrites hstop hexit using h
  exact ⟨courses, hsupervised, hwrites, hstop, hexit⟩

variable {courses : Courses}

private theorem IsUsual.isPosix (h : courses.IsUsual) : courses.IsPosix := by
  intro o f process hprocess status hexit
  rwa [Except.ok.inj (h.exit_eq o f process _ hexit)]

private theorem IsUsual.supervisor_eq (h : courses.IsUsual) :
    courses.supervisor = fun o => o.supervisor ⟨none, none⟩ :=
  funext fun o => funext fun f => funext fun process => h.supervised_eq o f process

end Courses

def Launch.exitCode : Except LaunchError Outcome → Int
  | .ok outcome => outcome.exitCode
  | .error cause => cause.exitCode

private theorem Response.exitCode_ofLaunched (l : Launch.Launched) :
    (Response.ofLaunched l).exitCode = Launch.exitCode l.result := by
  cases hresult : l.result <;> simp only [exitCode, ofLaunched, hresult] <;> rfl

namespace Session

variable (s : Session) (courses : Courses) (a : Architecture)
  (release withoutAcceleration : Bool)

/-- What comes of a run whose supervision takes one of the courses. -/
def runAlong : Response :=
  .ofAttempt s.files (s.attempt courses.supervisor a release withoutAcceleration)

def toolchainRun (o : Launch) : Except Failure Run :=
  s.host.execute s.files (o.settings.toolchain.command o.profile)

/-- The profile has been resolved, the image built, and the emulator planned for and started. -/
structure Started (o : Launch) (f : Noise.Filter) (process : Run) : Prop where
  resolved : s.resolve a release withoutAcceleration = .ok o
  built : (s.toolchainRun o).map Run.status = .ok (.exited 0)
  started : (s.call (courses.supervisor o)).start o
    (o.settings.toolchain.artifactPath o.profile) = .ok (f, process)

/-- How a run ends whose supervision takes one of the courses. -/
inductive Ends : Ending → Prop
  | unresolved {cause : ProjectError}
      (hresolve : s.resolve a release withoutAcceleration = .error cause) : Ends .unresolved
  | untried {o : Launch} {cause : Failure}
      (hresolve : s.resolve a release withoutAcceleration = .ok o)
      (hrun : s.toolchainRun o = .error cause) : Ends (.unbuilt none)
  | unbuilt {o : Launch} {run : Run} (hresolve : s.resolve a release withoutAcceleration = .ok o)
      (hrun : s.toolchainRun o = .ok run) (hstatus : run.status ≠ .exited 0) :
      Ends (.unbuilt (some run.status))
  | unstarted {o : Launch} {cause : LaunchError}
      (hresolve : s.resolve a release withoutAcceleration = .ok o)
      (hbuilt : (s.toolchainRun o).map Run.status = .ok (.exited 0))
      (hstart : (s.call (courses.supervisor o)).start o
        (o.settings.toolchain.artifactPath o.profile) = .error cause) : Ends .unstarted
  | unwritten {o : Launch} {f : Noise.Filter} {process : Run}
      (hstarted : s.Started courses a release withoutAcceleration o f process)
      (hwrites : ¬(courses o f process).WritesAll) : Ends .unfinished
  | unwatched {o : Launch} {f : Noise.Filter} {process : Run} {cause : Failure}
      (hstarted : s.Started courses a release withoutAcceleration o f process)
      (hwrites : (courses o f process).WritesAll)
      (hstop : (courses o f process).last.stop = some (.ended (.error cause))) : Ends .unfinished
  | interrupted {o : Launch} {f : Noise.Filter} {process : Run}
      (hstarted : s.Started courses a release withoutAcceleration o f process)
      (hwrites : (courses o f process).WritesAll)
      (hstop : (courses o f process).last.stop = some .interrupted) : Ends .interrupted
  | ended {o : Launch} {f : Noise.Filter} {process : Run} {status : ExitStatus}
      (hstarted : s.Started courses a release withoutAcceleration o f process)
      (hwrites : (courses o f process).WritesAll)
      (hstop : (courses o f process).last.stop = some (.ended (.ok status))) :
      Ends (.ended status)

variable {s courses a release withoutAcceleration}

/-! ### The code of an ending -/

private theorem answer_eq_runAlong (h : courses.IsUsual) (s : Session) (a : Architecture)
    (release withoutAcceleration : Bool) :
    s.answer (.run a release withoutAcceleration false) =
      s.runAlong courses a release withoutAcceleration := by
  rw [answer_run_false, runAlong, h.supervisor_eq]

private theorem failsWith_resolve (s : Session) (a : Architecture)
    (release withoutAcceleration : Bool) :
    FailsWith ProjectError.IsUsual (s.resolve a release withoutAcceleration) :=
  (Project.failsWith_discover s.files s.dir).bind fun project =>
    (project.failsWith_profile s.files a release withoutAcceleration).bind fun _ => .ok _

private theorem exitCode_of_resolve_error {cause : ProjectError}
    (hresolve : s.resolve a release withoutAcceleration = .error cause) :
    (s.runAlong courses a release withoutAcceleration).exitCode = 1 := by
  rw [runAlong, attempt_of_resolve_error courses.supervisor hresolve]
  exact failsWith_resolve s a release withoutAcceleration cause hresolve

/-- The code of a run is that of the first step that fails, or that of the supervision. -/
private theorem exitCode_of_resolve_ok {o : Launch}
    (hresolve : s.resolve a release withoutAcceleration = .ok o) :
    (s.runAlong courses a release withoutAcceleration).exitCode = Launch.exitCode (do
      let artifact ← (o.settings.toolchain.build s.host s.files o.profile).result
      let (f, process) ← (s.call (courses.supervisor o)).start o artifact
      (courses o f process).result) := by
  have hidle := (idle_of_resolve hresolve).1
  have hresult := ((s.call (courses.supervisor o)).course_run o).result_eq hidle
  rw [runAlong, attempt_of_resolve_ok courses.supervisor hresolve]
  exact (Response.exitCode_ofLaunched _).trans (congrArg Launch.exitCode hresult)

private theorem exitCode_of_built {o : Launch}
    (hresolve : s.resolve a release withoutAcceleration = .ok o)
    (hbuilt : (s.toolchainRun o).map Run.status = .ok (.exited 0)) :
    (s.runAlong courses a release withoutAcceleration).exitCode = Launch.exitCode (do
      let (f, process) ← (s.call (courses.supervisor o)).start o
        (o.settings.toolchain.artifactPath o.profile)
      (courses o f process).result) := by
  obtain ⟨run, hrun, hstatus⟩ := map_eq_ok.mp hbuilt
  rw [exitCode_of_resolve_ok hresolve, Toolchain.result_of_execute_ok hrun, hstatus]
  rfl

private theorem Started.exitCode_eq {o : Launch} {f : Noise.Filter} {process : Run}
    (h : s.Started courses a release withoutAcceleration o f process) :
    (s.runAlong courses a release withoutAcceleration).exitCode =
      Launch.exitCode (courses o f process).result := by
  rw [exitCode_of_built h.resolved h.built, h.started, ok_bind]

private theorem Ends.exitCode_eq {ending : Ending}
    (h : s.Ends courses a release withoutAcceleration ending) :
    (s.runAlong courses a release withoutAcceleration).exitCode = ending.status := by
  cases h with
  | unresolved hresolve => exact exitCode_of_resolve_error hresolve
  | untried hresolve hrun =>
    obtain ⟨text, htext⟩ := Toolchain.result_of_execute_error hrun
    rw [exitCode_of_resolve_ok hresolve, htext, error_bind]
    rfl
  | @unbuilt o run hresolve hrun hstatus =>
    obtain ⟨cause, hverdict, hcode⟩ := Toolchain.exists_verdict_error hstatus
      (Utf8.decodeLossy (run.written .stderr))
    rw [exitCode_of_resolve_ok hresolve, Toolchain.result_of_execute_ok hrun, hverdict, error_bind]
    exact hcode
  | @unstarted o cause hresolve hbuilt hstart =>
    rw [exitCode_of_built hresolve hbuilt, hstart, error_bind]
    exact Launch.Call.failsWith_start o _ _ cause hstart
  | unwritten hstarted hwrites =>
    obtain ⟨cause, hcause⟩ := Course.result_of_not_writesAll hwrites
    rw [hstarted.exitCode_eq, hcause]
    rfl
  | unwatched hstarted hwrites hstop =>
    rw [hstarted.exitCode_eq, Course.result_of_ended hwrites hstop]
    rfl
  | interrupted hstarted hwrites hstop =>
    rw [hstarted.exitCode_eq, Course.result_of_interrupted hwrites hstop]
    rfl
  | @ended o f process status hstarted hwrites hstop =>
    rw [hstarted.exitCode_eq, Course.result_of_ended hwrites hstop]
    cases status <;> rfl

private theorem exists_ends (s : Session) (courses : Courses) (a : Architecture)
    (release withoutAcceleration : Bool) :
    ∃ ending, s.Ends courses a release withoutAcceleration ending := by
  cases hresolve : s.resolve a release withoutAcceleration with
  | error cause => exact ⟨_, .unresolved hresolve⟩
  | ok o =>
    cases hrun : s.toolchainRun o with
    | error cause => exact ⟨_, .untried hresolve hrun⟩
    | ok run =>
      by_cases hstatus : run.status = .exited 0
      case neg => exact ⟨_, .unbuilt hresolve hrun hstatus⟩
      have hbuilt : (s.toolchainRun o).map Run.status = .ok (.exited 0) :=
        map_eq_ok.mpr ⟨run, hrun, hstatus⟩
      cases hstart : (s.call (courses.supervisor o)).start o
          (o.settings.toolchain.artifactPath o.profile) with
      | error cause => exact ⟨_, .unstarted hresolve hbuilt hstart⟩
      | ok started =>
        obtain ⟨f, process⟩ := started
        have hstarted : s.Started courses a release withoutAcceleration o f process :=
          ⟨hresolve, hbuilt, hstart⟩
        by_cases hwrites : (courses o f process).WritesAll
        case neg => exact ⟨_, .unwritten hstarted hwrites⟩
        obtain ⟨hstop, -⟩ | ⟨ending, hstop, -⟩ := Course.stop_cases hwrites
        · exact ⟨_, .interrupted hstarted hwrites hstop⟩
        · match ending with
          | .ok status => exact ⟨_, .ended hstarted hwrites hstop⟩
          | .error cause => exact ⟨_, .unwatched hstarted hwrites hstop⟩

private theorem Ends.started_of_ended {status : ExitStatus}
    (h : s.Ends courses a release withoutAcceleration (.ended status)) :
    ∃ o f process, s.Started courses a release withoutAcceleration o f process ∧
      (courses o f process).WritesAll ∧
      (courses o f process).last.stop = some (.ended (.ok status)) := by
  cases h with
  | ended hstarted hwrites hstop => exact ⟨_, _, _, hstarted, hwrites, hstop⟩

private theorem Started.isPosix {o : Launch} {f : Noise.Filter} {process : Run}
    (h : s.Started courses a release withoutAcceleration o f process) (hhost : s.host.IsPosix) :
    process.status.IsPosix := by
  obtain ⟨i, -, hrest⟩ := bind_eq_ok.mp h.started
  obtain ⟨_, -, hrest⟩ := bind_eq_ok.mp hrest
  obtain ⟨spawned, hspawn, hpair⟩ := bind_eq_ok.mp hrest
  obtain ⟨-, rfl⟩ := Prod.mk.inj (pure_eq_ok.mp hpair)
  exact hhost _ _ _ (mapError_eq_ok.mp hspawn)

private theorem Ends.isPosix {ending : Ending}
    (h : s.Ends courses a release withoutAcceleration ending)
    (hhost : s.host.IsPosix) (hcourses : courses.IsPosix) : ending.IsPosix := by
  cases h with
  | unbuilt _ hrun hstatus => exact ⟨hhost _ _ _ hrun, hstatus⟩
  | @ended o f process status hstarted hwrites hstop =>
    refine hcourses o f process (hstarted.isPosix hhost) status ?_
    obtain ⟨hother, -⟩ | ⟨ending, hother, hexit⟩ := Course.stop_cases hwrites
    · cases hstop.symm.trans hother
    · cases hstop.symm.trans hother
      exact hexit
  | unresolved | untried | unstarted | unwritten | unwatched | interrupted => exact trivial

/-- However a run is supervised, the status that it exits with is that of the way it ends. It is
zero only if the profile was resolved, the image built, the emulator planned for and started, all
that it showed was written, and it ended well before any interrupt. The usual supervision, which is
not interrupted, is one of those that this is about, and command lines that ask for a run exit with
its code. -/
theorem exit_status_by_ending (s : Session) (courses : Courses) (a : Architecture)
    (release withoutAcceleration : Bool) (hhost : s.host.IsPosix) (hcourses : courses.IsPosix) :
    let status := (s.runAlong courses a release withoutAcceleration).status
    (∃ ending, s.Ends courses a release withoutAcceleration ending) ∧
    (∀ ending, s.Ends courses a release withoutAcceleration ending → status = ending.status) ∧
    (status = 0 ↔ ∃ o f process, s.Started courses a release withoutAcceleration o f process ∧
      (courses o f process).WritesAll ∧
      (courses o f process).last.stop = some (.ended (.ok (.exited 0)))) ∧
    ∃ usual : Courses, usual.IsUsual ∧ usual.IsPosix ∧
      s.answer (.run a release withoutAcceleration false) =
        s.runAlong usual a release withoutAcceleration ∧
      (∀ args, Arguments.read args = .request (.run a release withoutAcceleration false) →
        (s.obey args).code = (s.runAlong usual a release withoutAcceleration).exitCode) ∧
      ∀ line : Arguments.RunLine, line.request = .run a release withoutAcceleration false →
        (s.obey line.args).code = (s.runAlong usual a release withoutAcceleration).exitCode := by
  intro status
  have hstatus (ending : Ending) (h : s.Ends courses a release withoutAcceleration ending) :
      status = ending.status := by
    simp only [status, Response.status, h.exitCode_eq]
    rw [← Ending.status_mod (h.isPosix hhost hcourses)]
    omega
  refine ⟨exists_ends s courses a release withoutAcceleration, hstatus, ⟨fun hzero => ?_, ?_⟩, ?_⟩
  · obtain ⟨ending, hends⟩ := exists_ends s courses a release withoutAcceleration
    rw [hstatus ending hends, Ending.status_eq_zero (hends.isPosix hhost hcourses)] at hzero
    exact (hzero ▸ hends).started_of_ended
  · rintro ⟨o, f, process, hstarted, hwrites, hstop⟩
    exact hstatus _ (.ended hstarted hwrites hstop)
  · obtain ⟨usual, husual⟩ := Courses.exists_isUsual
    have hanswer := answer_eq_runAlong husual s a release withoutAcceleration
    have hobey (args : List Bytes)
        (hargs : Arguments.read args = .request (.run a release withoutAcceleration false)) :
        (s.obey args).code = (s.runAlong usual a release withoutAcceleration).exitCode := by
      rw [← hanswer, obey, hargs]
    exact ⟨usual, husual, husual.isPosix, hanswer, hobey, fun line hline =>
      hobey line.args (hline ▸ line.read_args)⟩

theorem exit_status_by_ending_ready : ready.host.IsPosix ∧
    (∃ courses : Courses, courses.IsPosix ∧
      ready.Ends courses .x86_64 false false (.ended (.exited 0)) ∧
      (ready.runAlong courses .x86_64 false false).status = 0) ∧
    (ready.obey [.ofString "run", .ofString "x86_64"]).code = 0 := by
  have hhost : ready.host.IsPosix := by
    intro files command run hrun
    cases hrun
    exact Nat.zero_le 255
  obtain ⟨usual, husual⟩ := Courses.exists_isUsual
  have hcode : (ready.answer (.run .x86_64 false false false)).exitCode = 0 := by decide +kernel
  have hstatus : (ready.runAlong usual .x86_64 false false).status = 0 := by
    rw [← answer_eq_runAlong husual, Response.status, hcode]
    rfl
  obtain ⟨-, -, hzero, other, -, -, hanswer, -, hline⟩ :=
    exit_status_by_ending ready usual .x86_64 false false hhost husual.isPosix
  obtain ⟨o, f, process, hstarted, hwrites, hstop⟩ := hzero.mp hstatus
  have hobey := hline _ (Arguments.RunLine.request_ofRequest .x86_64 false false false)
  rw [← hanswer, hcode] at hobey
  exact ⟨hhost, ⟨usual, husual.isPosix, .ended hstarted hwrites hstop, hstatus⟩, hobey⟩

end Session

end PxeLaunch

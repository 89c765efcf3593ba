import Mathlib.Data.List.Chain
import PxeLaunch.Launch.Lifecycle
import PxeLaunch.Profile.Builtin
import PxeLaunch.Proofs.Result

/-!
Launches that are run any number of times, on any hosts. What one run can do is said once, by its
courses; the states and the commands of all runs follow from it. Main statement: the first run of a
launch takes every step once, up to the one that fails, and no later run does anything.
-/

set_option autoImplicit false

namespace PxeLaunch.Launch

structure Call where
  host : Host
  supervisor : Supervisor
  files : Files
  stdin : Bytes

def building (o : Launch) : Launch :=
  (o.enter .building).gave (o.settings.toolchain.command o.profile)

def launching (o : Launch) : Launch := o.building.enter .launching

/-! ### The courses of one run -/

namespace Call

def run (c : Call) (o : Launch) : Launched := Launch.run c.host c.supervisor c.files c.stdin o

def build (c : Call) (o : Launch) : Built := o.settings.toolchain.build c.host c.files o.profile

def plan (c : Call) (o : Launch) (artifact : Path) : Except LaunchError Invocation :=
  o.plan (c.build o).files c.host.architecture artifact

def spawn (c : Call) (o : Launch) (i : Invocation) : Except Failure Run :=
  c.host.execute (c.build o).files (o.startCommand i c.stdin)

def start (c : Call) (o : Launch) (artifact : Path) :
    Except LaunchError (Noise.Filter × Run) := do
  let i ← c.plan o artifact
  let f ← o.filter
  let process ← (c.spawn o i).mapError fun cause =>
    .launchFailed o.profile.architecture (.notStarted i.program cause)
  return (f, process)

/-- All that a run can come to: the launch after it, and its result. -/
inductive Course (c : Call) (o : Launch) : Launch → Except LaunchError Outcome → Prop
  | again (hstage : o.stage ≠ .idle) :
      Course c o o (.error (.misconfigured o.profile.architecture (.alreadyRan o.stage)))
  | unbuilt {cause : LaunchError} (hstage : o.stage = .idle)
      (hbuild : (c.build o).result = .error cause) :
      Course c o (o.building.enter .failed) (.error cause)
  | unplanned {artifact : Path} {cause : LaunchError} (hstage : o.stage = .idle)
      (hbuild : (c.build o).result = .ok artifact) (hplan : c.plan o artifact = .error cause) :
      Course c o (o.launching.enter .failed) (.error cause)
  | unfiltered {artifact : Path} {i : Invocation} {cause : LaunchError} (hstage : o.stage = .idle)
      (hbuild : (c.build o).result = .ok artifact) (hplan : c.plan o artifact = .ok i)
      (hfilter : o.filter = .error cause) :
      Course c o (o.launching.enter .failed) (.error cause)
  | unstarted {artifact : Path} {i : Invocation} {f : Noise.Filter} {cause : Failure}
      (hstage : o.stage = .idle) (hbuild : (c.build o).result = .ok artifact)
      (hplan : c.plan o artifact = .ok i) (hfilter : o.filter = .ok f)
      (hspawn : c.spawn o i = .error cause) :
      Course c o ((o.launching.gave (o.startCommand i c.stdin)).enter .failed)
        (.error (.launchFailed o.profile.architecture (.notStarted i.program cause)))
  | supervised {artifact : Path} {i : Invocation} {f : Noise.Filter} {process : Run}
      (hstage : o.stage = .idle) (hbuild : (c.build o).result = .ok artifact)
      (hplan : c.plan o artifact = .ok i) (hfilter : o.filter = .ok f)
      (hspawn : c.spawn o i = .ok process) :
      Course c o (((o.launching.gave (o.startCommand i c.stdin)).enter .running).enter .terminated)
        (c.supervisor f process).result

variable {c : Call} {o : Launch}

private theorem run_of_ne_idle (h : o.stage ≠ .idle) :
    c.run o = ⟨o, c.files, [], [], [],
      .error (.misconfigured o.profile.architecture (.alreadyRan o.stage))⟩ := by
  simp [run, Launch.run, h]

theorem run_of_build_error {cause : LaunchError} (h : o.stage = .idle)
    (hbuild : (c.build o).result = .error cause) :
    c.run o = ⟨o.building.enter .failed, (c.build o).files, (c.build o).stdout, (c.build o).stderr,
      [], .error cause⟩ := by
  rw [build] at hbuild
  simp only [run, Launch.run, h, bne_self_eq_false, Bool.false_eq_true, if_false, hbuild]
  rfl

theorem run_of_build_ok {artifact : Path} (h : o.stage = .idle)
    (hbuild : (c.build o).result = .ok artifact) :
    c.run o =
      let (after, files, written, result) :=
        launch c.host c.supervisor (c.build o).files c.stdin o.launching artifact
      ⟨after, files, (c.build o).stdout, (c.build o).stderr, written, result⟩ := by
  rw [build] at hbuild
  simp only [run, Launch.run, h, bne_self_eq_false, Bool.false_eq_true, if_false, hbuild]
  rfl

theorem prepare_eq (c : Call) (o : Launch) (artifact : Path) :
    o.launching.prepare (c.build o).files c.host.architecture artifact =
      match c.plan o artifact, o.filter with
      | .error cause, _ => .error cause
      | .ok _, .error cause => .error cause
      | .ok i, .ok f => .ok (i, f) := by
  have hprepare : o.launching.prepare (c.build o).files c.host.architecture artifact =
      (c.plan o artifact >>= fun i => o.filter >>= fun f => pure (i, f)) := rfl
  rw [hprepare]
  cases c.plan o artifact <;> cases o.filter <;> rfl

private theorem boot_of_spawn_error {i : Invocation} {cause : Failure}
    (hspawn : c.spawn o i = .error cause) (f : Noise.Filter) :
    boot c.host c.supervisor (c.build o).files c.stdin o.launching i f =
      ((o.launching.gave (o.startCommand i c.stdin)).enter .failed, (c.build o).files, [],
        .error (.launchFailed o.profile.architecture (.notStarted i.program cause))) := by
  have hexecute : c.host.execute (c.build o).files (o.launching.startCommand i c.stdin) =
      .error cause := hspawn
  simp only [boot, hexecute]
  rfl

private theorem boot_of_spawn_ok {i : Invocation} {process : Run}
    (hspawn : c.spawn o i = .ok process) (f : Noise.Filter) :
    boot c.host c.supervisor (c.build o).files c.stdin o.launching i f =
      (((o.launching.gave (o.startCommand i c.stdin)).enter .running).enter .terminated,
        process.files, (c.supervisor f process).written, (c.supervisor f process).result) := by
  have hexecute : c.host.execute (c.build o).files (o.launching.startCommand i c.stdin) =
      .ok process := hspawn
  simp only [boot, hexecute]
  rfl

theorem course_run (c : Call) (o : Launch) : c.Course o (c.run o).launch (c.run o).result := by
  by_cases hstage : o.stage = .idle
  case neg =>
    rw [run_of_ne_idle hstage]
    exact .again hstage
  cases hbuild : (c.build o).result with
  | error cause =>
    rw [run_of_build_error hstage hbuild]
    exact .unbuilt hstage hbuild
  | ok artifact =>
    rw [run_of_build_ok hstage hbuild, launch, prepare_eq]
    cases hplan : c.plan o artifact with
    | error cause => exact .unplanned hstage hbuild hplan
    | ok i =>
      cases hfilter : o.filter with
      | error cause => exact .unfiltered hstage hbuild hplan hfilter
      | ok f =>
        cases hspawn : c.spawn o i with
        | error cause =>
          simp only [boot_of_spawn_error hspawn]
          exact .unstarted hstage hbuild hplan hfilter hspawn
        | ok process =>
          simp only [boot_of_spawn_ok hspawn]
          exact .supervised hstage hbuild hplan hfilter hspawn

section

variable {artifact : Path} {i : Invocation}

private theorem start_of_plan_error {cause : LaunchError}
    (hplan : c.plan o artifact = .error cause) : c.start o artifact = .error cause := by
  simp only [start, hplan, error_bind]

private theorem start_of_filter_error {cause : LaunchError} (hplan : c.plan o artifact = .ok i)
    (hfilter : o.filter = .error cause) : c.start o artifact = .error cause := by
  simp only [start, hplan, hfilter, ok_bind, error_bind]

private theorem start_of_spawn_error {f : Noise.Filter} {cause : Failure}
    (hplan : c.plan o artifact = .ok i) (hfilter : o.filter = .ok f)
    (hspawn : c.spawn o i = .error cause) :
    c.start o artifact =
      .error (.launchFailed o.profile.architecture (.notStarted i.program cause)) := by
  simp only [start, hplan, hfilter, hspawn, ok_bind]
  rfl

private theorem start_of_spawn_ok {f : Noise.Filter} {process : Run}
    (hplan : c.plan o artifact = .ok i)
    (hfilter : o.filter = .ok f) (hspawn : c.spawn o i = .ok process) :
    c.start o artifact = .ok (f, process) := by
  simp only [start, hplan, hfilter, hspawn, ok_bind]
  rfl

end

section

variable {after : Launch} {result : Except LaunchError Outcome}

private theorem Course.stage_ne_idle (h : c.Course o after result) : after.stage ≠ .idle := by
  cases h with
  | again hstage => exact hstage
  | unbuilt | unplanned | unfiltered | unstarted | supervised => simp [enter]

private theorem Course.profile_eq (h : c.Course o after result) : after.profile = o.profile := by
  cases h <;> rfl

/-- The first run of a launch gives the error of the step that fails, or else what the supervision
gives. -/
theorem Course.result_eq (h : c.Course o after result) (hidle : o.stage = .idle) :
    result = (do
      let artifact ← (c.build o).result
      let (f, process) ← c.start o artifact
      (c.supervisor f process).result) := by
  cases h with
  | again hstage => exact absurd hidle hstage
  | unbuilt _ hbuild => rw [hbuild, error_bind]
  | unplanned _ hbuild hplan => rw [hbuild, ok_bind, start_of_plan_error hplan, error_bind]
  | unfiltered _ hbuild hplan hfilter =>
    rw [hbuild, ok_bind, start_of_filter_error hplan hfilter, error_bind]
  | unstarted _ hbuild hplan hfilter hspawn =>
    rw [hbuild, ok_bind, start_of_spawn_error hplan hfilter hspawn, error_bind]
  | supervised _ hbuild hplan hfilter hspawn =>
    rw [hbuild, ok_bind, start_of_spawn_ok hplan hfilter hspawn, ok_bind]

private theorem Course.history_eq (h : c.Course o after result) (hidle : o.stage = .idle) :
    after.history = o.history ++ .building ::
      match (c.build o).result with
      | .error _ => [.failed]
      | .ok artifact => .launching ::
        match c.start o artifact with
        | .error _ => [.failed]
        | .ok _ => [.running, .terminated] := by
  cases h with
  | again hstage => exact absurd hidle hstage
  | unbuilt _ hbuild => simp [hbuild, building, enter, gave]
  | unplanned _ hbuild hplan =>
    simp [hbuild, start_of_plan_error hplan, launching, building, enter, gave]
  | unfiltered _ hbuild hplan hfilter =>
    simp [hbuild, start_of_filter_error hplan hfilter, launching, building, enter, gave]
  | unstarted _ hbuild hplan hfilter hspawn =>
    simp [hbuild, start_of_spawn_error hplan hfilter hspawn, launching, building, enter, gave]
  | supervised _ hbuild hplan hfilter hspawn =>
    simp [hbuild, start_of_spawn_ok hplan hfilter hspawn, launching, building, enter, gave]

end

def commands (c : Call) (o : Launch) : List Command :=
  (c.run o).launch.commands.drop o.commands.length

end Call

/-! ### States -/

/-- The states of a launch start with `idle`, each one may follow the one before it, and the last is
the one that the launch is in. -/
structure IsTrail (o : Launch) : Prop where
  starts : o.history.head? = some .idle
  ends : o.history.getLast? = some o.stage
  follows : o.history.IsChain fun s t => s.canPrecede t = true

private theorem isTrail_ofProfile (p : Profile) (settings : Settings) :
    (ofProfile p settings).IsTrail :=
  ⟨rfl, rfl, .singleton _⟩

variable {o : Launch}

private theorem IsTrail.enter (h : o.IsTrail) {s : Stage} (hs : o.stage.canPrecede s = true) :
    (o.enter s).IsTrail where
  starts := by simp [Launch.enter, List.head?_append, h.starts]
  ends := by simp [Launch.enter]
  follows := by
    refine h.follows.append (.singleton s) fun last hlast next hnext => ?_
    rw [h.ends, Option.mem_some_iff] at hlast
    rw [List.head?_singleton, Option.mem_some_iff] at hnext
    rwa [← hlast, ← hnext]

private theorem IsTrail.gave (h : o.IsTrail) (command : Command) : (o.gave command).IsTrail :=
  ⟨h.starts, h.ends, h.follows⟩

private theorem IsTrail.launching (h : o.IsTrail) (hstage : o.stage = .idle) :
    o.launching.IsTrail :=
  ((h.enter (by rw [hstage]; rfl)).gave _).enter rfl

private theorem IsTrail.course {c : Call} {after : Launch} {result : Except LaunchError Outcome}
    (h : o.IsTrail) (hcourse : c.Course o after result) : after.IsTrail := by
  cases hcourse with
  | again => exact h
  | unbuilt hstage => exact ((h.enter (by rw [hstage]; rfl)).gave _).enter rfl
  | unplanned hstage | unfiltered hstage => exact (h.launching hstage).enter rfl
  | unstarted hstage => exact ((h.launching hstage).gave _).enter rfl
  | supervised hstage => exact (((h.launching hstage).gave _).enter rfl).enter rfl

def after (o : Launch) (calls : List Call) : Launch := calls.foldl (fun o c => (c.run o).launch) o

private theorem IsTrail.after (h : o.IsTrail) (calls : List Call) : (o.after calls).IsTrail := by
  induction calls generalizing o with
  | nil => exact h
  | cons c rest ih => exact ih (h.course (c.course_run o))

private theorem after_of_ne_idle (h : o.stage ≠ .idle) (calls : List Call) : o.after calls = o := by
  induction calls with
  | nil => rfl
  | cons c rest ih => rwa [after, List.foldl_cons, Call.run_of_ne_idle h]

private theorem after_cons (o : Launch) (c : Call) (rest : List Call) :
    o.after (c :: rest) = (c.run o).launch := after_of_ne_idle (c.course_run o).stage_ne_idle rest

/-! ### Commands -/

/-- What a host says to commands, each of them on the files that the one before left. -/
def answers (host : Host) (files : Files) :
    List Command → List (Command × Except Failure Run)
  | [] => []
  | command :: rest =>
    let answer := host.execute files command
    (command, answer) :: answers host (answer.toOption.elim files Run.files) rest

private theorem map_fst_answers (host : Host) (files : Files) (commands : List Command) :
    (answers host files commands).map Prod.fst = commands := by
  induction commands generalizing files with
  | nil => rfl
  | cons command rest ih => rw [answers, List.map_cons, ih]

/-- The commands of runs, one after another, and what the hosts said to them. -/
def answered (o : Launch) : List Call → List (Command × Except Failure Run)
  | [] => []
  | c :: rest => answers c.host c.files (c.commands o) ++ answered (c.run o).launch rest

/-- The emulators that runs start. The first command of all is the toolchain's. -/
def emulators (o : Launch) (calls : List Call) : List Run :=
  (o.answered calls).tail.filterMap fun deal => deal.2.toOption

private theorem Call.commands_of_ne_idle {c : Call} (h : o.stage ≠ .idle) : c.commands o = [] := by
  simp [Call.commands, Call.run_of_ne_idle h]

private theorem answered_of_ne_idle (h : o.stage ≠ .idle) (calls : List Call) :
    o.answered calls = [] := by
  induction calls with
  | nil => rfl
  | cons c rest ih =>
    rw [answered, Call.commands_of_ne_idle h, Call.run_of_ne_idle h, ih]
    rfl

private theorem answered_cons (o : Launch) (c : Call) (rest : List Call) :
    o.answered (c :: rest) = answers c.host c.files (c.commands o) := by
  rw [answered, answered_of_ne_idle (c.course_run o).stage_ne_idle, List.append_nil]

private theorem Call.files_build (c : Call) (o : Launch) :
    (c.build o).files =
      (c.host.execute c.files (o.settings.toolchain.command o.profile)).toOption.elim c.files
        Run.files := by
  rw [Call.build, Toolchain.build]
  cases c.host.execute c.files (o.settings.toolchain.command o.profile) <;> rfl

/-- The first run of a launch gives the command of the toolchain, and at most one that starts an
emulator. It says that the emulator runs if the host has started it. -/
private theorem Call.Course.answers_eq {c : Call} {after : Launch}
    {result : Except LaunchError Outcome}
    (h : c.Course o after result) (hidle : o.stage = .idle) (hfresh : .running ∉ o.history) :
    ∃ spawned, answers c.host c.files (after.commands.drop o.commands.length) =
        (o.settings.toolchain.command o.profile,
          c.host.execute c.files (o.settings.toolchain.command o.profile)) :: spawned ∧
      (spawned = [] ∧ .running ∉ after.history ∨
        ∃ i, spawned = [(o.startCommand i c.stdin, c.spawn o i)] ∧
          ((c.spawn o i).toOption.isSome ↔ .running ∈ after.history)) := by
  cases h with
  | again hstage => exact absurd hidle hstage
  | unbuilt | unplanned | unfiltered =>
    exact ⟨[], by simp [launching, building, enter, gave, answers],
      .inl ⟨rfl, by simp [launching, building, enter, gave, hfresh]⟩⟩
  | @unstarted _ i _ _ _ _ _ _ hspawn | @supervised _ i _ _ _ _ _ _ hspawn =>
    refine ⟨_, ?_, .inr ⟨i, rfl, ?_⟩⟩
    · simp [launching, building, enter, gave, answers, Call.spawn, c.files_build o]
    · simp [launching, building, enter, gave, hspawn, Except.toOption, hfresh]

private theorem Call.Course.exists_commands_eq {c : Call} {after : Launch}
    {result : Except LaunchError Outcome} (h : c.Course o after result) (hidle : o.stage = .idle) :
    ∃ rest, after.commands = o.commands ++ o.settings.toolchain.command o.profile :: rest := by
  cases h with
  | again hstage => exact absurd hidle hstage
  | unbuilt | unplanned | unfiltered =>
    exact ⟨[], by simp [launching, building, enter, gave]⟩
  | @unstarted _ i | @supervised _ i =>
    exact ⟨[o.startCommand i c.stdin], by simp [launching, building, enter, gave]⟩

private theorem commands_boot (host : Host) (supervisor : Supervisor) (files : Files)
    (stdin : Bytes) (o : Launch) (i : Invocation) (f : Noise.Filter) :
    (boot host supervisor files stdin o i f).1.commands =
      o.commands ++ [o.startCommand i stdin] := by
  rw [boot]
  cases host.execute files (o.startCommand i stdin) <;> rfl

section

variable {c : Call} {host : Host}

private theorem Call.build_congr (hidle : o.stage = .idle)
    (hanswers : answers host c.files (c.commands o) = answers c.host c.files (c.commands o)) :
    ({ c with host := host } : Call).build o = c.build o := by
  obtain ⟨rest, hrest⟩ := (c.course_run o).exists_commands_eq hidle
  rw [commands, hrest, List.drop_left, answers, answers] at hanswers
  have hfirst := (Prod.mk.inj (List.cons.inj hanswers).1).2
  simp only [build, Toolchain.build, hfirst]

/-- The commands of a run are all that it asks of its host: with another host that says the same to
them, the run is the same. -/
private theorem Call.run_congr (harchitecture : host.architecture = c.host.architecture)
    (hanswers : answers host c.files (c.commands o) = answers c.host c.files (c.commands o)) :
    ({ c with host := host } : Call).run o = c.run o := by
  by_cases hidle : o.stage = .idle
  case neg => rw [run_of_ne_idle hidle, run_of_ne_idle hidle]
  have hbuild := build_congr hidle hanswers
  cases hresult : (c.build o).result with
  | error cause =>
    rw [run_of_build_error hidle hresult, run_of_build_error hidle (hbuild ▸ hresult), hbuild]
  | ok artifact =>
    have hrun := run_of_build_ok hidle hresult
    rw [hrun, run_of_build_ok hidle (hbuild ▸ hresult), hbuild]
    simp only [launch, harchitecture] at hrun ⊢
    cases hprepared : o.launching.prepare (c.build o).files c.host.architecture artifact with
    | error cause => rfl
    | ok prepared =>
      obtain ⟨i, f⟩ := prepared
      rw [hprepared] at hrun
      have hcommands : c.commands o =
          [o.settings.toolchain.command o.profile, o.startCommand i c.stdin] := by
        rw [commands, hrun]
        simp [commands_boot, launching, building, enter, gave, startCommand, projectDir]
      have hspawn : host.execute (c.build o).files (o.launching.startCommand i c.stdin) =
          c.host.execute (c.build o).files (o.launching.startCommand i c.stdin) := by
        have hfiles := ({ c with host := host } : Call).files_build o
        rw [hbuild] at hfiles
        have hsecond := congrArg List.tail hanswers
        rw [hcommands] at hsecond
        simp only [answers, List.tail_cons, List.cons.injEq, Prod.mk.injEq, true_and,
          and_true] at hsecond
        rwa [← hfiles, ← c.files_build o] at hsecond
      simp only [boot, hspawn]

end

/-! ### All runs -/

private theorem commands_after (p : Profile) (settings : Settings) (calls : List Call) :
    let o := ofProfile p settings
    let last := o.after calls
    (last.commands = [] ∨ ∃ starts, last.commands = settings.toolchain.command p :: starts ∧
      starts.length ≤ 1 ∧ ∀ command ∈ starts, ∃ i stdin, command = o.startCommand i stdin) ∧
    (o.emulators calls ≠ [] ↔ .running ∈ last.history) ∧ (o.emulators calls).length ≤ 1 := by
  intro o last
  cases calls with
  | nil =>
    exact ⟨.inl rfl, by simp [emulators, answered, last, after, o, ofProfile],
      by simp [emulators, answered]⟩
  | cons first later =>
    have hlast : last = (first.run o).launch := after_cons o first later
    obtain ⟨spawned, hanswers, hspawned⟩ :=
      (first.course_run o).answers_eq rfl (by simp [o, ofProfile])
    have hcommands : last.commands = settings.toolchain.command p :: spawned.map Prod.fst := by
      have hfst := congrArg (List.map Prod.fst) hanswers
      rw [map_fst_answers, List.map_cons] at hfst
      rw [hlast]
      exact hfst
    have hemulators : o.emulators (first :: later) =
        spawned.filterMap fun deal => deal.2.toOption := by
      rw [emulators, answered_cons, Call.commands, hanswers, List.tail_cons]
    rw [hemulators, hlast]
    rw [hlast] at hcommands
    obtain ⟨rfl, hrunning⟩ | ⟨i, rfl, hrunning⟩ := hspawned
    · exact ⟨.inr ⟨_, hcommands, by simp, by simp⟩, by simp [hrunning], by simp⟩
    · refine ⟨.inr ⟨_, hcommands, by simp, by simp⟩, ?_,
        (List.length_filterMap_le _ _).trans (by simp)⟩
      rw [← hrunning]
      cases first.spawn o i <;> simp [Except.toOption]

private theorem history_run (c : Call) (hidle : o.stage = .idle) (hfresh : o.history = [.idle]) :
    ((c.run o).launch.history = [.idle, .building, .failed] ↔
      ∃ cause, (c.build o).result = .error cause) ∧
    ((c.run o).launch.history = [.idle, .building, .launching, .failed] ↔
      ∃ artifact cause, (c.build o).result = .ok artifact ∧ c.start o artifact = .error cause) ∧
    ((c.run o).launch.history = [.idle, .building, .launching, .running, .terminated] ↔
      ∃ artifact f process, (c.build o).result = .ok artifact ∧
        c.start o artifact = .ok (f, process)) := by
  rw [(c.course_run o).history_eq hidle, hfresh]
  cases hbuild : (c.build o).result with
  | error cause => simp
  | ok artifact =>
    cases hstart : c.start o artifact with
    | error cause => simp [hstart]
    | ok started => simp [hstart, ← Prod.exists]

/-- The first run of a launch builds once and then starts an emulator at most once. It fails where
the first step fails, with the error of that step, and is terminated however the supervision ends.
The commands that are listed are all that it asks of its host, and later runs do nothing and say
so. -/
theorem lifecycle (p : Profile) (settings : Settings) (calls : List Call) :
    let o := ofProfile p settings
    let last := o.after calls
    last.IsTrail ∧
    (last.commands = [] ∨ ∃ starts, last.commands = settings.toolchain.command p :: starts ∧
      starts.length ≤ 1 ∧ ∀ command ∈ starts, ∃ i stdin, command = o.startCommand i stdin) ∧
    (o.emulators calls ≠ [] ↔ .running ∈ last.history) ∧ (o.emulators calls).length ≤ 1 ∧
    ∀ first later, calls = first :: later →
      ((first.run o).launch.history = [.idle, .building, .failed] ↔
        ∃ cause, (first.build o).result = .error cause) ∧
      ((first.run o).launch.history = [.idle, .building, .launching, .failed] ↔
        ∃ artifact cause, (first.build o).result = .ok artifact ∧
          first.start o artifact = .error cause) ∧
      ((first.run o).launch.history = [.idle, .building, .launching, .running, .terminated] ↔
        ∃ artifact f process, (first.build o).result = .ok artifact ∧
          first.start o artifact = .ok (f, process)) ∧
      (first.run o).result = (do
        let artifact ← (first.build o).result
        let (f, process) ← first.start o artifact
        (first.supervisor f process).result) ∧
      (∀ host : Host, host.architecture = first.host.architecture →
        answers host first.files (first.commands o) =
          answers first.host first.files (first.commands o) →
        ({ first with host := host } : Call).run o = first.run o) ∧
      ∀ before c rest, later = before ++ c :: rest →
        c.run (o.after (first :: before)) = ⟨last, c.files, [], [], [],
          .error (.misconfigured p.architecture (.alreadyRan last.stage))⟩ := by
  intro o last
  obtain ⟨hcommands, hrunning, honce⟩ := commands_after p settings calls
  refine ⟨(isTrail_ofProfile p settings).after calls, hcommands, hrunning, honce, ?_⟩
  intro first later hcalls
  subst hcalls
  have hcourse := first.course_run o
  obtain ⟨hunbuilt, hunstarted, hstarted⟩ := history_run first (o := o) rfl rfl
  refine ⟨hunbuilt, hunstarted, hstarted, hcourse.result_eq rfl,
    fun _ harchitecture hanswers => Call.run_congr harchitecture hanswers, ?_⟩
  intro before c rest _
  have hlast : last = (first.run o).launch := after_cons o first later
  rw [after_cons, Call.run_of_ne_idle hcourse.stage_ne_idle, hcourse.profile_eq, hlast]
  rfl

/-- A run whose commands all succeed, and whose supervision fails. -/
def unsupervised : Call where
  host := ⟨some .x86_64, fun files _ => .ok ⟨[], .exited 0, files⟩⟩
  supervisor _ _ := ⟨[], .error (.stream .brokenPipe)⟩
  files := {
    entries := [
      ([.ofString "target"], .folder),
      ([.ofString "target", .ofString "riscv64gc-unknown-uefi"], .folder),
      ([.ofString "target", .ofString "riscv64gc-unknown-uefi", .ofString "debug"], .folder),
      ([.ofString "target", .ofString "riscv64gc-unknown-uefi", .ofString "debug",
        .ofString "bootloader.efi"], .file [] false)]
    here := [] }
  stdin := []

/-- A launch whose image is there and which needs no firmware image. -/
def guest : Launch := ofProfile .riscv64 (.default (.default (.ofString ".")))

theorem lifecycle_unsupervised :
    (unsupervised.run guest).launch.history =
      [.idle, .building, .launching, .running, .terminated] ∧
    (unsupervised.run guest).result = .error (.stream .brokenPipe) ∧
    (guest.emulators [unsupervised, unsupervised]).length = 1 ∧
    (unsupervised.run (guest.after [unsupervised])).result =
      .error (.misconfigured .riscv64 (.alreadyRan .terminated)) := by
  have hbuild : (unsupervised.build guest).result =
      .ok (guest.settings.toolchain.artifactPath guest.profile) := rfl
  have hsome : (unsupervised.start guest
      (guest.settings.toolchain.artifactPath guest.profile)).toOption.isSome = true := by
    decide +kernel
  obtain ⟨⟨f, process⟩, hstart⟩ := Option.isSome_iff_exists.mp hsome
  rw [toOption_eq_some] at hstart
  have hguest : ofProfile guest.profile guest.settings = guest := rfl
  have hall := lifecycle guest.profile guest.settings [unsupervised, unsupervised]
  rw [hguest] at hall
  obtain ⟨htrail, -, hemulators, honce, hruns⟩ := hall
  obtain ⟨-, -, hstarted, hresult, -, hagain⟩ := hruns unsupervised [unsupervised] rfl
  have hhistory := hstarted.mpr ⟨_, f, process, hbuild, hstart⟩
  have hlast := after_cons guest unsupervised [unsupervised]
  refine ⟨hhistory, ?_, ?_, ?_⟩
  · rw [hresult, hbuild, ok_bind, hstart]
    rfl
  · have hne := hemulators.mpr (by simp [hlast, hhistory])
    exact le_antisymm honce (List.length_pos_of_ne_nil hne)
  · have hends := htrail.ends
    rw [hlast, hhistory] at hends
    rw [hagain [] unsupervised [] rfl, hlast, ← Option.some.inj hends]
    rfl

end PxeLaunch.Launch

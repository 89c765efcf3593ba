import PxeLaunch.Proofs.Noise.Compilation
import PxeLaunch.Proofs.Project.Validity
import PxeLaunch.Proofs.Request.Attempt
import PxeLaunch.Proofs.Text.Utf8

/-!
Runs and their rehearsals. A rehearsal builds the image and shows the command that a run would start
the emulator with; a run makes a noise filter besides, which cannot fail for the profile of a
project. Main statement: a rehearsal fails as a run does that fails before it starts the emulator,
and otherwise shows the command that the run starts it with.
-/

set_option autoImplicit false

namespace PxeLaunch

/-! ### The profile of a project has a filter -/

private theorem Project.exists_filter_of_profile {files : Files} {project : Project}
    {a : Architecture} {release withoutAcceleration : Bool} {p : Profile}
    (h : project.profile files a release withoutAcceleration = .ok p) (halike : p.MatchesAlike)
    (settings : Launch.Settings) : ∃ f, (Launch.ofProfile p settings).filter = .ok f := by
  obtain ⟨r, q, hr, hq, -, hp⟩ := Project.profile_eq_ok.mp h
  have hvalid : p.isValid = true := by
    rw [hp, Project.isValid_adjust]
    exact ((Project.registry_isSound_isFull hr).1 a q hq).2
  obtain ⟨f, hf, -⟩ := Profile.exists_compile_of_isValid hvalid halike
  refine ⟨f, ?_⟩
  rw [Launch.filter]
  simp only [Launch.ofProfile, hf]

/-! ### What a run plans -/

namespace Launch.Call

def planned (c : Call) (o : Launch) : Except LaunchError Invocation := do
  c.plan o (← (c.build o).result)

variable {c : Call} {o after : Launch} {result : Except LaunchError Outcome}

/-- The first run of a launch fails with the plan, and then the toolchain's is the only command; or
else it gives the command to start what was planned. -/
private theorem Course.planned_cases (h : c.Course o after result) (hidle : o.stage = .idle)
    {f : Noise.Filter} (hfilter : o.filter = .ok f) :
    (∃ cause, c.planned o = .error cause ∧ result = .error cause ∧
      after.commands = o.commands ++ [o.settings.toolchain.command o.profile]) ∨
    ∃ i, c.planned o = .ok i ∧ after.commands =
      o.commands ++ [o.settings.toolchain.command o.profile, o.startCommand i c.stdin] := by
  cases h with
  | again hstage => exact absurd hidle hstage
  | @unbuilt cause _ hbuild =>
    exact .inl ⟨cause, by rw [planned, hbuild, error_bind], rfl, rfl⟩
  | @unplanned _ cause _ hbuild hplan =>
    exact .inl ⟨cause, by rw [planned, hbuild, ok_bind, hplan], rfl, rfl⟩
  | unfiltered _ _ _ hunfiltered =>
    rw [hfilter] at hunfiltered
    cases hunfiltered
  | @unstarted _ i _ _ _ hbuild hplan | @supervised _ i _ _ _ hbuild hplan =>
    exact .inr ⟨i, by rw [planned, hbuild, ok_bind, hplan],
      by simp [launching, building, enter, gave]⟩

end Launch.Call

/-! ### Rehearsals -/

namespace Session

variable (s : Session) (supervisor : Launch → Launch.Supervisor) (a : Architecture)
  (release withoutAcceleration : Bool)

def starts : List Command :=
  match s.attempt supervisor a release withoutAcceleration with
  | .ok l => l.launch.commands.tail
  | .error _ => []

/-- A rehearsal succeeds and shows a line, after all that the toolchain has shown. -/
def Shows (line : String) : Prop :=
  ∃ o, s.resolve a release withoutAcceleration = .ok o ∧
    (s.answer (.run a release withoutAcceleration true)).result = .ok 0 ∧
    (s.answer (.run a release withoutAcceleration true)).stdout =
      (o.settings.toolchain.build s.host s.files o.profile).stdout ++
        Bytes.ofString (line ++ "\n")

variable {s supervisor a release withoutAcceleration}

private theorem exists_filter_of_resolve {o : Launch}
    (h : s.resolve a release withoutAcceleration = .ok o)
    (halike : o.profile.MatchesAlike) : ∃ f, o.filter = .ok f := by
  obtain ⟨project, -, hrest⟩ := bind_eq_ok.mp h
  obtain ⟨p, hp, ho⟩ := bind_eq_ok.mp hrest
  rw [pure_eq_ok] at ho
  subst ho
  exact Project.exists_filter_of_profile hp halike _

private theorem rehearse_eq (s : Session) (o : Launch) (supervisor : Launch.Supervisor) :
    s.rehearse o =
      let c := s.call supervisor
      ⟨(c.build o).files, (c.build o).stdout ++
        ((c.planned o).toOption.map fun i => Bytes.ofString (i.commandLine ++ "\n")).getD [],
        (c.build o).stderr, (ProjectError.ofLaunch (c.planned o)).map fun _ => 0⟩ := by
  have hrehearse : s.rehearse o = s.building o.settings.toolchain o.profile fun files artifact => do
      let i ← ProjectError.ofLaunch (o.plan files s.host.architecture artifact)
      return i.commandLine ++ "\n" := rfl
  have hbuild : o.settings.toolchain.build s.host s.files o.profile =
      (s.call supervisor).build o := rfl
  rw [hrehearse, building, hbuild]
  cases hbuilt : ((s.call supervisor).build o).result with
  | error cause =>
    simp only [hbuilt, Launch.Call.planned]
    rfl
  | ok artifact =>
    have hplan : o.plan ((s.call supervisor).build o).files s.host.architecture artifact =
        (s.call supervisor).plan o artifact := rfl
    simp only [hbuilt, Launch.Call.planned, ProjectError.ofLaunch, Except.mapError, ok_bind, hplan]
    cases (s.call supervisor).plan o artifact <;> rfl

private theorem rehearse_eq_of_planned_error {o : Launch} {supervisor : Launch.Supervisor}
    (hidle : o.stage = .idle) {cause : LaunchError}
    (h : (s.call supervisor).planned o = .error cause) :
    s.rehearse o = .ofLaunched ((s.call supervisor).run o) := by
  simp only [rehearse_eq s o supervisor, h]
  cases hbuild : ((s.call supervisor).build o).result with
  | error other =>
    rw [Launch.Call.planned, hbuild, error_bind] at h
    cases h
    rw [Launch.Call.run_of_build_error hidle hbuild]
    rfl
  | ok artifact =>
    rw [Launch.Call.planned, hbuild, ok_bind] at h
    rw [Launch.Call.run_of_build_ok hidle hbuild, Launch.launch, Launch.Call.prepare_eq, h]
    rfl

private theorem shows_iff_of_planned {o : Launch} {supervisor : Launch.Supervisor}
    (ho : s.resolve a release withoutAcceleration = .ok o) {i : Invocation}
    (h : (s.call supervisor).planned o = .ok i) {line : String} :
    s.Shows a release withoutAcceleration line ↔ i.commandLine = line := by
  have hanswer : s.answer (.run a release withoutAcceleration true) = s.rehearse o := by
    rw [answer_run, ho]
    rfl
  have hbuild : o.settings.toolchain.build s.host s.files o.profile =
      (s.call supervisor).build o := rfl
  simp only [Shows, ho, hanswer, rehearse_eq s o supervisor, h, Except.ok.injEq, exists_eq_left',
    hbuild]
  constructor
  · rintro ⟨-, hshown⟩
    have hline := Bytes.ofString_injective (List.append_cancel_left hshown)
    simpa using hline
  · rintro rfl
    exact ⟨rfl, rfl⟩

section

variable (s supervisor a release withoutAcceleration)

/-- Either a rehearsal and a run fail alike before the emulator is started, or the rehearsal shows
the invocation that the run starts. -/
private theorem rehearsal_cases
    (halike : ∀ o, s.resolve a release withoutAcceleration = .ok o → o.profile.MatchesAlike) :
    (∃ e, s.answer (.run a release withoutAcceleration true) = .ofAttempt s.files
        (s.attempt supervisor a release withoutAcceleration) ∧
      (s.answer (.run a release withoutAcceleration true)).result = .error e ∧
      s.starts supervisor a release withoutAcceleration = []) ∨
    ∃ o i, s.resolve a release withoutAcceleration = .ok o ∧
      (s.answer (.run a release withoutAcceleration true)).result = .ok 0 ∧
      (∀ line, s.Shows a release withoutAcceleration line ↔ i.commandLine = line) ∧
      s.starts supervisor a release withoutAcceleration = [o.startCommand i s.stdin] := by
  cases ho : s.resolve a release withoutAcceleration with
  | error e =>
    have hanswer : s.answer (.run a release withoutAcceleration true) = .failure s.files e := by
      rw [answer_run, ho]
    have hattempt := attempt_of_resolve_error supervisor ho
    exact .inl ⟨e, by rw [hanswer, hattempt]; rfl, by rw [hanswer]; rfl,
      by rw [starts, hattempt]⟩
  | ok o =>
    have hanswer : s.answer (.run a release withoutAcceleration true) = s.rehearse o := by
      rw [answer_run, ho]
      rfl
    have hattempt := attempt_of_resolve_ok supervisor ho
    obtain ⟨hidle, hfresh⟩ := idle_of_resolve ho
    obtain ⟨f, hf⟩ := exists_filter_of_resolve ho (halike o ho)
    obtain ⟨cause, hplanned, hresult, hcommands⟩ | ⟨i, hplanned, hcommands⟩ :=
      ((s.call (supervisor o)).course_run o).planned_cases hidle hf
    · have hsame := rehearse_eq_of_planned_error hidle hplanned
      refine .inl ⟨.ofCause (.launch cause), ?_, ?_, ?_⟩
      · rw [hanswer, hsame, hattempt]
        rfl
      · rw [hanswer, hsame, Response.ofLaunched, hresult]
        rfl
      · rw [starts, hattempt]
        simp only [hcommands, hfresh]
        rfl
    · refine .inr ⟨o, i, rfl, ?_, fun line => shows_iff_of_planned ho hplanned, ?_⟩
      · simp only [hanswer, rehearse_eq s o (supervisor o), hplanned]
        rfl
      · rw [starts, hattempt]
        simp only [hcommands, hfresh]
        rfl

/-- Whatever stands in the way of a run before it starts the emulator stands in the way of its
rehearsal, and nothing else does: the two fail with the same error, and then leave and show the
same. A rehearsal that does not fail shows one line, which is the command line of the invocation
that a run starts, however the run is supervised. -/
theorem rehearsal_agrees_with_run
    (halike : ∀ o, s.resolve a release withoutAcceleration = .ok o → o.profile.MatchesAlike) :
    let rehearsal := s.answer (.run a release withoutAcceleration true)
    let real := Response.ofAttempt s.files (s.attempt supervisor a release withoutAcceleration)
    let starts := s.starts supervisor a release withoutAcceleration
    (∀ e, rehearsal.result = .error e ↔ real.result = .error e ∧ starts = []) ∧
    (∀ e, rehearsal.result = .error e → rehearsal = real) ∧
    (∀ code, rehearsal.result = .ok code → ∃ line, s.Shows a release withoutAcceleration line) ∧
    (∀ line, s.Shows a release withoutAcceleration line →
      ∃ o i, s.resolve a release withoutAcceleration = .ok o ∧ i.commandLine = line ∧
        starts = [o.startCommand i s.stdin]) ∧
    s.answer (.run a release withoutAcceleration false) = .ofAttempt s.files
      (s.attempt (fun o => o.supervisor ⟨none, none⟩) a release withoutAcceleration) := by
  intro rehearsal real starts
  obtain ⟨e, hsame, hfails, hnone⟩ | ⟨o, i, ho, hok, hshows, hone⟩ :=
    rehearsal_cases s supervisor a release withoutAcceleration halike
  · have hreal : real.result = .error e := by rw [← hfails, hsame]
    refine ⟨?_, fun _ _ => hsame, ?_, ?_, answer_run_false⟩
    · simp [rehearsal, hfails, hreal, starts, hnone]
    · simp [rehearsal, hfails]
    · rintro line ⟨-, -, hok, -⟩
      rw [hfails] at hok
      cases hok
  · refine ⟨?_, ?_, fun _ _ => ⟨i.commandLine, (hshows _).mpr rfl⟩, ?_, answer_run_false⟩
    · simp [rehearsal, hok, starts, hone]
    · simp [rehearsal, hok]
    · exact fun line hline => ⟨o, i, ho, (hshows line).mp hline, hone⟩

end

private theorem profile_of_resolve_ready {o : Launch}
    (h : ready.resolve .x86_64 false false = .ok o) : o.profile = .x86_64 := by
  have hprofile : (ready.resolve .x86_64 false false).toOption.map Launch.profile =
      some .x86_64 := by decide +kernel
  rw [h] at hprofile
  exact Option.some.inj hprofile

theorem rehearsal_agrees_with_run_ready :
    (∀ o, ready.resolve .x86_64 false false = .ok o → o.profile.MatchesAlike) ∧
    ∃ (o : Launch) (i : Invocation), ready.Shows .x86_64 false false i.commandLine ∧
      ready.starts (fun o => o.supervisor ⟨none, none⟩) .x86_64 false false =
        [o.startCommand i []] := by
  have halike (o : Launch) (h : ready.resolve .x86_64 false false = .ok o) :
      o.profile.MatchesAlike := by
    rw [profile_of_resolve_ready h]
    decide +kernel
  refine ⟨halike, ?_⟩
  obtain ⟨-, -, hsucceeds, hshown, -⟩ :=
    rehearsal_agrees_with_run ready (fun o => o.supervisor ⟨none, none⟩) .x86_64 false false halike
  have hok : (ready.answer (.run .x86_64 false false true)).result.toOption = some 0 := by
    decide +kernel
  obtain ⟨line, hline⟩ := hsucceeds 0 (toOption_eq_some.mp hok)
  obtain ⟨o, i, -, rfl, hstarts⟩ := hshown line hline
  exact ⟨o, i, hline, hstarts⟩

end Session

end PxeLaunch

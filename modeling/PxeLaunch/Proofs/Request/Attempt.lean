import PxeLaunch.Proofs.Launch.Lifecycle
import PxeLaunch.Request.Answer

/-!
Attempts to run a guest. A request to run one resolves what to launch and then either rehearses the
launch or runs it. An attempt is a run that is supervised in any way; the answer to a request shows
the attempt that is supervised in the usual one.
-/

set_option autoImplicit false

namespace PxeLaunch

def Response.ofLaunched (l : Launch.Launched) : Response :=
  ⟨l.files, l.buildOutput ++ l.written.flatten, l.buildComplaint,
    (ProjectError.ofLaunch l.result).map Outcome.exitCode⟩

/-- The response that shows what came of a launch, if there was something to launch. -/
def Response.ofAttempt (files : Files) : Except ProjectError Launch.Launched → Response
  | .ok l => .ofLaunched l
  | .error e => .failure files e

namespace Session

variable (s : Session) (supervisor : Launch → Launch.Supervisor) (a : Architecture)
  (release withoutAcceleration : Bool)

def resolve : Except ProjectError Launch := do
  let project ← Project.discover s.files s.dir
  let p ← project.profile s.files a release withoutAcceleration
  return .ofProfile p (project.launchSettings a)

def call (supervisor : Launch.Supervisor) : Launch.Call := ⟨s.host, supervisor, s.files, s.stdin⟩

def attempt : Except ProjectError Launch.Launched := do
  let o ← s.resolve a release withoutAcceleration
  return (s.call (supervisor o)).run o

variable {s supervisor a release withoutAcceleration}

theorem answer_run (dryRun : Bool) :
    s.answer (.run a release withoutAcceleration dryRun) =
      match s.resolve a release withoutAcceleration with
      | .ok o => if dryRun then s.rehearse o else s.launch o
      | .error e => .failure s.files e := by
  simp only [answer, Request.needsProject, if_true, resolve]
  cases Project.discover s.files s.dir with
  | error e => rfl
  | ok project =>
    simp only [answerIn, run, ok_bind]
    cases project.profile s.files a release withoutAcceleration <;> rfl

/-- A run without rehearsal is the attempt that is supervised in the usual way. -/
theorem answer_run_false :
    s.answer (.run a release withoutAcceleration false) =
      .ofAttempt s.files
        (s.attempt (fun o => o.supervisor ⟨none, none⟩) a release withoutAcceleration) := by
  rw [answer_run, attempt]
  cases s.resolve a release withoutAcceleration <;> rfl

theorem idle_of_resolve {o : Launch} (h : s.resolve a release withoutAcceleration = .ok o) :
    o.stage = .idle ∧ o.commands = [] := by
  obtain ⟨project, -, hrest⟩ := bind_eq_ok.mp h
  obtain ⟨p, -, ho⟩ := bind_eq_ok.mp hrest
  rw [pure_eq_ok] at ho
  exact ho ▸ ⟨rfl, rfl⟩

theorem attempt_of_resolve_error (supervisor : Launch → Launch.Supervisor) {e : ProjectError}
    (h : s.resolve a release withoutAcceleration = .error e) :
    s.attempt supervisor a release withoutAcceleration = .error e := by
  rw [attempt, h, error_bind]

theorem attempt_of_resolve_ok (supervisor : Launch → Launch.Supervisor) {o : Launch}
    (h : s.resolve a release withoutAcceleration = .ok o) :
    s.attempt supervisor a release withoutAcceleration =
      .ok ((s.call (supervisor o)).run o) := by
  rw [attempt, h, ok_bind]
  rfl

/-- A folder where an Intel guest can be launched: its firmware is there, and so is the image that
the toolchain leaves. -/
def ready : Session where
  host := ⟨some .x86_64, fun files _ => .ok ⟨[], .exited 0, files⟩⟩
  files := {
    entries := [
      ([.ofString "firmware"], .folder),
      ([.ofString "firmware", .ofString "OVMF.fd"], .file [] false),
      ([.ofString "target"], .folder),
      ([.ofString "target", .ofString "x86_64-unknown-uefi"], .folder),
      ([.ofString "target", .ofString "x86_64-unknown-uefi", .ofString "debug"], .folder),
      ([.ofString "target", .ofString "x86_64-unknown-uefi", .ofString "debug",
        .ofString "bootloader.efi"], .file [] false)]
    here := [] }
  dir := .ofString "."
  stdin := []

end Session

end PxeLaunch

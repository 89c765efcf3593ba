import PxeLaunch.Proofs.Launch.Lifecycle
import PxeLaunch.Request.Answer

/-!
The codes of errors. Only a failed build has a code of its own, and an error keeps its code when
more is said around it. Whatever else goes wrong exits with one: looking for a project and for a
profile in it, and all that is between the build and the running emulator.
-/

set_option autoImplicit false

namespace PxeLaunch

/-! ### Errors of a project -/

/-- An error that exits with one. -/
def ProjectError.IsUsual (e : ProjectError) : Prop := e.exitCode = 1

namespace ProjectError

variable {α : Type}

private theorem failsWith_during {activity : String} {x : Except ProjectError α}
    (h : FailsWith IsUsual x) : FailsWith IsUsual (x.mapError (.during activity)) :=
  h.mapError fun _ he => he

private theorem failsWith_ofProfile (x : Except ProfileError α) :
    FailsWith IsUsual (ofProfile x) := by
  refine .of_mapError (fun e => ?_) x
  rfl

private theorem failsWith_ofSystem (activity : String) (x : Except Failure α) :
    FailsWith IsUsual (ofSystem activity x) := by
  refine .of_mapError (fun e => ?_) x
  rfl

end ProjectError

open ProjectError (IsUsual failsWith_during failsWith_ofProfile failsWith_ofSystem)

private theorem Override.failsWith_apply (o : Override) (p : Profile) :
    FailsWith IsUsual (o.apply p) := by
  refine FailsWith.bind ?_ fun _ => .ok _
  rw [newAcceleration]
  repeat' split
  · exact .ok _
  · exact .ok _
  · exact .error rfl

namespace Project

private theorem failsWith_readManifest (files : Files) (path : Path) :
    FailsWith IsUsual (readManifest files path) := by
  refine (failsWith_ofSystem _ _).bind fun _ => .of_mapError (fun e => ?_) _
  rfl

private theorem failsWith_findIn (files : Files) (dirs : List Path) :
    FailsWith IsUsual (findIn files dirs) := by
  induction dirs with
  | nil => exact .ok none
  | cons dir rest ih =>
    simp only [findIn]
    split
    · exact (failsWith_readManifest files _).bind fun _ => .ok _
    · exact ih

theorem failsWith_discover (files : Files) (start : Path) :
    FailsWith IsUsual (discover files start) :=
  (failsWith_findIn files _).bind fun _ => .ok _

private theorem failsWith_applyOverride (r : Registry) (name : String) (o : Override) :
    FailsWith IsUsual (applyOverride r name o) := by
  refine (failsWith_during (failsWith_ofProfile _)).bind fun a => ?_
  cases r.get? a with
  | none => exact .ok _
  | some p => exact (o.failsWith_apply p).bind fun _ => (failsWith_ofProfile _).bind fun _ => .ok _

private theorem failsWith_applyOverrides (r : Registry) (os : List (String × Override)) :
    FailsWith IsUsual (applyOverrides r os) := by
  induction os generalizing r with
  | nil => exact .ok r
  | cons entry rest ih => exact (failsWith_applyOverride r entry.1 entry.2).bind ih

private theorem failsWith_registry (files : Files) (project : Project) :
    FailsWith IsUsual (project.registry files) := by
  refine (failsWith_during (failsWith_ofProfile _)).bind fun r => ?_
  cases project.manifest with
  | none => exact .ok _
  | some m => exact failsWith_applyOverrides r m.overrides

theorem failsWith_profile (project : Project) (files : Files) (a : Architecture)
    (release withoutAcceleration : Bool) :
    FailsWith IsUsual (project.profile files a release withoutAcceleration) :=
  (failsWith_registry files project).bind fun _ => (failsWith_ofProfile _).bind fun _ => .ok _

end Project

/-! ### Errors of a launch -/

def LaunchError.IsUsual (e : LaunchError) : Prop := e.exitCode = 1

namespace Launch

variable (o : Launch)

private theorem failsWith_checkFirmware (files : Files) :
    FailsWith LaunchError.IsUsual (o.checkFirmware files) := by
  rw [checkFirmware]
  repeat' split
  · exact .ok ()
  · exact .ok ()
  · exact .error rfl

private theorem failsWith_serve (files : Files) (p : Profile) (artifact : Path) :
    FailsWith LaunchError.IsUsual (Wiring.serve files p artifact) := by
  rw [Wiring.serve]
  split
  · exact .error rfl
  · split
    · exact .error rfl
    · split
      · exact .error rfl
      · exact .ok _

private theorem failsWith_plan (files : Files) (host : Option Architecture) (artifact : Path) :
    FailsWith LaunchError.IsUsual (o.plan files host artifact) := by
  refine (o.failsWith_checkFirmware files).bind fun _ =>
    (failsWith_serve files _ artifact).bind fun w => ?_
  rw [Invocation.ofProfile]
  split
  · exact .error rfl
  · exact .ok _

private theorem failsWith_filter : FailsWith LaunchError.IsUsual o.filter := by
  rw [filter]
  split
  · exact .ok _
  · exact .error rfl

theorem Call.failsWith_start (c : Call) (artifact : Path) :
    FailsWith LaunchError.IsUsual (c.start o artifact) := by
  refine (o.failsWith_plan _ _ _).bind fun _ => o.failsWith_filter.bind fun _ =>
    (FailsWith.of_mapError (fun e => ?_) _).bind fun _ => .ok _
  rfl

end Launch

end PxeLaunch

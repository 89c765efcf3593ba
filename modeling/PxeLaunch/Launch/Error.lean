import PxeLaunch.Launch.Stage
import PxeLaunch.Noise.Filter
import PxeLaunch.Profile.Error

/-!
What can go wrong with a launch. Only a failed build has a code of its own to exit with, that of the
toolchain.
-/

set_option autoImplicit false

namespace PxeLaunch

/-- Why an emulator could not be started. -/
inductive LaunchFault where
  | noFirmware (path : Path)
  | notStarted (program : Path) (cause : Failure)
  | stated (text : String)
  deriving DecidableEq

def LaunchFault.text : LaunchFault → String
  | .noFirmware path => s!"firmware image {path.display} not found"
  | .notStarted program cause => s!"failed to start {program.display}: {cause.message}"
  | .stated text => text

/-- What does not fit together in a launch. -/
inductive LaunchConflict where
  | noArtifact (path : Path)
  | artifactName (path : Path)
  | commaInName (name : String)
  | filter (cause : Noise.FilterError)
  | alreadyRan (state : Stage)
  | stated (text : String)
  deriving DecidableEq

def LaunchConflict.text : LaunchConflict → String
  | .noArtifact path => s!"boot artifact {path.display} does not exist (build it first)"
  | .artifactName path => s!"boot artifact {path.display} has no UTF-8 file name"
  | .commaInName name =>
    s!"boot file name '{name}' contains ',' which the emulator option parser rejects"
  | .filter cause => cause.text
  | .alreadyRan state => s!"orchestrator already ran (state {state.name})"
  | .stated text => text

/-- What can go wrong with a launch. -/
inductive LaunchError where
  | buildFailed (architecture : Architecture) (code : Option Int) (stderr : String)
  | launchFailed (architecture : Architecture) (fault : LaunchFault)
  | misconfigured (architecture : Architecture) (conflict : LaunchConflict)
  | stream (cause : Failure)
  | profile (cause : ProfileError)

namespace LaunchError

/-- How the toolchain ended. -/
def codeText : Option Int → String
  | some code => s!"exit code {code}"
  | none => "toolchain did not run to completion"

/-- What the toolchain complained about, without blanks at its end. -/
def complaintText (stderr : String) : String :=
  let complaint := Blank.trimEnd stderr
  if complaint.isEmpty then "" else ":\n" ++ complaint

/-- The text of an error. -/
def message : LaunchError → String
  | .buildFailed a code stderr =>
    s!"build failed for {a.name} ({codeText code}){complaintText stderr}"
  | .launchFailed a fault => s!"launch failed for {a.name}: {fault.text}"
  | .misconfigured a conflict => s!"configuration error for {a.name}: {conflict.text}"
  | .stream cause => s!"stream error: {cause.message}"
  | .profile cause => cause.message

/-- The code to exit with after an error; it is never zero. -/
def exitCode : LaunchError → Int
  | .buildFailed _ (some code) _ => if code = 0 then 1 else code
  | _ => 1

/-- The text of what lies behind an error, if something does. -/
def source? : LaunchError → Option String
  | .stream cause => some cause.message
  | .profile cause => cause.source?
  | _ => none

end LaunchError

end PxeLaunch

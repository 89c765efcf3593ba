import PxeLaunch.Launch.Error

/-!
Errors as they reach the user: a cause, and what was being done when it arose.
-/

set_option autoImplicit false

namespace PxeLaunch

/-- What went wrong at the bottom of it. -/
inductive Cause where
  | launch (error : LaunchError)
  | profile (error : ProfileError)
  | manifest (error : Toml.Error)
  | system (failure : Failure)
  | plain (text : String)

/-- A cause, with the activities that it stopped, the outermost first. -/
structure ProjectError where
  context : List String
  cause : Cause

namespace Cause

/-- The texts of a cause and of what lies behind it. -/
def messages : Cause → List String
  | .launch e => e.message :: e.source?.toList
  | .profile e => e.message :: e.source?.toList
  | .manifest e => [e.message]
  | .system e => [e.message]
  | .plain text => [text]

/-- The code to exit with. -/
def exitCode : Cause → Int
  | .launch e => e.exitCode
  | _ => 1

end Cause

namespace ProjectError

def ofCause (c : Cause) : ProjectError := ⟨[], c⟩

def plain (text : String) : ProjectError := .ofCause (.plain text)

/-- The error with one more activity around it. -/
def during (activity : String) (e : ProjectError) : ProjectError :=
  { e with context := activity :: e.context }

/-- The text of an error, from the outermost activity to the last cause. -/
def message (e : ProjectError) : String := ": ".intercalate (e.context ++ e.cause.messages)

def exitCode (e : ProjectError) : Int := e.cause.exitCode

end ProjectError

/-- A result with a profile's error. -/
def ProjectError.ofProfile {α : Type} (r : Except ProfileError α) : Except ProjectError α :=
  r.mapError fun e => .ofCause (.profile e)

/-- A result with a launch's error. -/
def ProjectError.ofLaunch {α : Type} (r : Except LaunchError α) : Except ProjectError α :=
  r.mapError fun e => .ofCause (.launch e)

/-- A result with a failure of the system, in the middle of an activity. -/
def ProjectError.ofSystem {α : Type} (activity : String) (r : Except Failure α) :
    Except ProjectError α :=
  r.mapError fun e => .during activity (.ofCause (.system e))

end PxeLaunch

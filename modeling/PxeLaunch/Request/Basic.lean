import PxeLaunch.Architecture
import PxeLaunch.Path

/-!
What a user can ask for.
-/

set_option autoImplicit false

namespace PxeLaunch

/-- What a user can ask for. -/
inductive Request where
  | run (architecture : Architecture) (release withoutAcceleration dryRun : Bool)
  | build (architecture : Architecture) (release : Bool)
  | listProfiles
  | describeProfile (architecture : Architecture) (format : Option String)
  | validateProfile (file : Path)
  | profileTemplate (architecture : Architecture)
  | filter (architecture : Architecture)
  | doctor (only : Option Architecture)
  | createProject (name : String)
  deriving Repr, DecidableEq

namespace Request

/-- Whether a request is about the project that the user is in. -/
def needsProject : Request → Bool
  | .createProject _ => false
  | _ => true

end Request

end PxeLaunch

/-!
The states of a launch. A launch goes through them from `idle` on; every step is taken once, and a
step that fails ends it.
-/

set_option autoImplicit false

namespace PxeLaunch

/-- How far a launch has come. -/
inductive Stage where
  | idle
  | building
  | launching
  | running
  | terminated
  | failed
  deriving Repr, DecidableEq

namespace Stage

def name : Stage → String
  | .idle => "Idle"
  | .building => "Building"
  | .launching => "Launching"
  | .running => "Running"
  | .terminated => "Terminated"
  | .failed => "Failed"

/-- Whether a state may follow another one at once. -/
def canPrecede : Stage → Stage → Bool
  | .idle, .building => true
  | .building, .launching => true
  | .building, .failed => true
  | .launching, .running => true
  | .launching, .failed => true
  | .running, .terminated => true
  | _, _ => false

end Stage

end PxeLaunch

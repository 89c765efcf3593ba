import PxeLaunch.Host.Process

/-!
How the run of a guest ended, and the code to exit with after it.
-/

set_option autoImplicit false

namespace PxeLaunch

/-- How the run of a guest ended. -/
inductive Outcome where
  | exited (code : Int)
  | signalled (signal : Int)
  | interrupted
  deriving Repr, DecidableEq

namespace Outcome

def ofStatus : ExitStatus → Outcome
  | .exited code => .exited code
  | .killed signal => .signalled signal

/-- The code to exit with, as a shell would report it. -/
def exitCode : Outcome → Int
  | .exited code => code
  | .signalled signal => 128 + signal
  | .interrupted => 130

def isSuccess (o : Outcome) : Bool := o = .exited 0

def name : Outcome → String
  | .exited code => s!"Exited({code})"
  | .signalled signal => s!"Signalled({signal})"
  | .interrupted => "Interrupted"

end Outcome

end PxeLaunch

import PxeLaunch.Architecture
import PxeLaunch.Host.Files

/-!
Processes. A host is told to run a command; it refuses, or the process runs to its end, and what it
wrote, when it was silent, how it ended and which files it left are known.
-/

set_option autoImplicit false

namespace PxeLaunch

/-- A program to run, with what it is given. -/
structure Command where
  program : Path
  args : List Bytes
  directory : Option Path
  stdin : Bytes
  deriving DecidableEq

/-- How a process ended. -/
inductive ExitStatus where
  | exited (code : Nat)
  | killed (signal : Nat)
  deriving Repr, DecidableEq

/-- The two outputs of a process. -/
inductive Pipe where
  | stdout
  | stderr
  deriving Repr, DecidableEq

/-- Something that a process does and others can see. -/
inductive Activity where
  | writes (pipe : Pipe) (bytes : Bytes)
  | rests (milliseconds : Nat)
  deriving Repr, DecidableEq

/-- A process from start to end. -/
structure Run where
  activities : List Activity
  status : ExitStatus
  files : Files

/-- What a process wrote to one of its outputs. -/
def Run.written (run : Run) (pipe : Pipe) : Bytes :=
  run.activities.flatMap fun
    | .writes p bytes => if p = pipe then bytes else []
    | .rests _ => []

/-- A machine to run processes on. -/
structure Host where
  architecture : Option Architecture
  execute : Files → Command → Except Failure Run

end PxeLaunch

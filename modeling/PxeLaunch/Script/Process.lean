import PxeLaunch.Script.Shell
import PxeLaunch.Script.Signal

/-!
Processes of a script. A process starts as a copy of the one that makes it; what it does to files
and streams, and the time that passes, is kept, and all else that it changes is forgotten when it
ends.
-/

set_option autoImplicit false

namespace PxeLaunch.Script

/-- Runs a command. -/
abbrev Runner := Tree → Shell → Shell

namespace Shell

/-- A copy of a script as a process of its own. Answers to signals are forgotten, unless the signals
are passed over. -/
def fork (s : Shell) : Shell :=
  { s with
    process := s.processes + 1
    ancestors := s.process :: s.ancestors
    processes := s.processes + 1
    traps := s.traps.filter fun (n, action) => n != 0 && action.isEmpty
    jobs := [] }

/-- What a process leaves behind in the one that made it. -/
def joined (s t : Shell) : Shell :=
  { s with
    files := { t.files with here := s.files.here }
    streams := t.streams
    clock := t.clock
    moments := t.moments
    processes := t.processes
    latest := t.latest
    signals := t.signals.filter fun (p, _) => p != t.process || p = s.process }

/-- The status that a script finds after a process has ended. -/
def statusOf : ExitStatus → Nat
  | .exited code => code
  | .killed n => 128 + n

/-- Says how a process was killed. -/
def mourn (s : Shell) (status : ExitStatus) : Shell :=
  match status with
  | .killed n => if (Signal.remark n).isEmpty then s else s.write 2 (Signal.remark n ++ ['\n'])
  | .exited _ => s

/-- The state after waiting for a process. -/
def waitedFor (s t : Shell) : Shell :=
  let status := t.ending
  ((s.joined t).mourn status).answer (statusOf status)

/-- Sends a signal to a process. -/
def signal (s : Shell) (process n : Nat) : Shell :=
  { s with signals := s.signals ++ [(process, n)] }

/-- The answer to a signal. -/
def trap? (s : Shell) (n : Nat) : Option Chars := s.traps.lookup n

end Shell

end PxeLaunch.Script

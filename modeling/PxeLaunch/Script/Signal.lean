import PxeLaunch.Script.Number

/-!
Signals: their numbers, their names and what is said of a process that one of them ended.
-/

set_option autoImplicit false

namespace PxeLaunch.Script.Signal

/-- The names of the signals and what is said of processes that they end, from the first on. -/
def all : List (String × String) :=
  [("HUP", "Hangup"), ("INT", "Interrupt"), ("QUIT", "Quit"), ("ILL", "Illegal instruction"),
   ("TRAP", "Trace/breakpoint trap"), ("ABRT", "Aborted"), ("BUS", "Bus error"),
   ("FPE", "Floating point exception"), ("KILL", "Killed"), ("USR1", "User defined signal 1"),
   ("SEGV", "Segmentation fault"), ("USR2", "User defined signal 2"), ("PIPE", "Broken pipe"),
   ("ALRM", "Alarm clock"), ("TERM", "Terminated"), ("16", "Stack fault"),
   ("CHLD", "Child exited"), ("CONT", "Continued"), ("STOP", "Stopped (signal)"),
   ("TSTP", "Stopped"), ("TTIN", "Stopped (tty input)"), ("TTOU", "Stopped (tty output)"),
   ("URG", "Urgent I/O condition"), ("XCPU", "CPU time limit exceeded"),
   ("XFSZ", "File size limit exceeded"), ("VTALRM", "Virtual timer expired"),
   ("PROF", "Profiling timer expired"), ("WINCH", "Window changed"), ("IO", "I/O possible"),
   ("PWR", "Power failure"), ("SYS", "Bad system call")]

/-- The number of a signal that is given by its name or its number. Zero stands for the end of a
script. -/
def ofText? (cs : Chars) : Option Nat :=
  if !cs.isEmpty && cs.all Char.isDigit then
    let n := natOf 10 cs
    if n < 65 then some n else none
  else if cs = "EXIT".toList then some 0
  else (all.findIdx? fun (name, _) => name.toList = cs.map Char.toUpper).map (· + 1)

def name (n : Nat) : Chars :=
  if n = 0 then "EXIT".toList
  else match all[n - 1]? with
    | some (name, _) => name.toList
    | none => natText n

/-- What is said of a process that a signal ended. Those that end on purpose are passed over. -/
def remark (n : Nat) : Chars :=
  if n = 2 || n = 13 then []
  else match all[n - 1]? with
    | some (_, text) => text.toList
    | none => "Real-time signal ".toList ++ natText (n - 34)

/-- Signals that do not end a process that has no answer to them. -/
def isHarmless (n : Nat) : Bool := n = 0 || n = 17 || n = 18 || n = 23 || n = 28

/-- Signals that no process can have an answer to. -/
def isFinal (n : Nat) : Bool := n = 9 || n = 19

end PxeLaunch.Script.Signal

import PxeLaunch.Launch.Error
import PxeLaunch.Launch.Outcome
import PxeLaunch.Noise.Stream

/-!
Supervising a running emulator. One reader for each of its outputs cuts what arrives into chunks,
filters them and puts them into a queue; one writer takes them from there, one at a time, and writes
them to the sink; and somebody waits for the emulator to end, for an interrupt or for the sink to
fail, whichever comes first. The parts move in any order: a `Move` is one step of one of them, and
`State.step` says what it does. `supervise` moves them in one order of its own.
-/

set_option autoImplicit false

namespace PxeLaunch.Supervision

open Noise (Event Filter LineState)

/-- Whether a reader is still reading. -/
inductive Phase where
  | reading
  | ended
  | failed (cause : Failure)
  deriving Repr, DecidableEq

/-- The reader of one output. It holds at most one chunk that the queue has not taken yet. -/
structure Reader where
  unread : List Event
  startsLine : Bool
  line : LineState
  outbox : Option Bytes
  phase : Phase
  deriving Repr, DecidableEq

/-- A reader that has read nothing yet. -/
def Reader.start (events : List Event) : Reader := ⟨events, true, .start, none, .reading⟩

/-- Reads the next chunk and filters it. A chunk of which nothing is left is not passed on. -/
def Reader.read (f : Filter) (patience : Option Nat) (r : Reader) : Reader :=
  match Noise.read patience r.unread with
  | .chunk bytes rest =>
    let (out, line) := f.chunk ⟨bytes, r.startsLine⟩ r.line
    { r with
      unread := rest
      startsLine := Noise.endsLine bytes
      line := line
      outbox := if out.isEmpty then none else some out }
  | .ended => { r with phase := .ended }
  | .failed cause rest => { r with unread := rest, phase := .failed cause }

/-- Whether a reader has nothing more to pass on. -/
def Reader.isDone (r : Reader) : Bool := r.phase != .reading && r.outbox.isNone

/-- Whether the writer is still writing. -/
inductive Writer where
  | writing
  | finished
  | failed (cause : Failure)
  deriving Repr, DecidableEq

/-- What ended the wait. -/
inductive Stop where
  | ended (result : Except Failure ExitStatus)
  | interrupted
  | aborted

/-- The parts of a supervision. The writer holds the chunk that it has taken from the queue until
that is written. What has been written last comes first. -/
structure State where
  out : Reader
  err : Reader
  queue : List Bytes
  held : Option Bytes
  writer : Writer
  written : List Bytes
  interrupt : Bool
  child : Option (Except Failure ExitStatus)
  stop : Option Stop
  killed : Bool
  reaped : Bool

/-- A step of one of the parts. A chunk is written and flushed in one step, which fails if either of
the two fails. -/
inductive Move where
  | read (pipe : Pipe)
  | send (pipe : Pipe)
  | receive
  | write (failure : Option Failure)
  | close
  | interrupt
  | exit (result : Except Failure ExitStatus)
  | wake
  | reap

/-- The number of chunks that the queue holds. -/
def capacity : Nat := 256

namespace State

/-- Nothing has happened yet. -/
def start (out err : List Event) : State :=
  ⟨.start out, .start err, [], none, .writing, [], false, none, none, false, false⟩

def reader (s : State) : Pipe → Reader
  | .stdout => s.out
  | .stderr => s.err

def withReader (s : State) (r : Reader) : Pipe → State
  | .stdout => { s with out := r }
  | .stderr => { s with err := r }

/-- What a wait that has been woken finds: an interrupt comes before the failure of the sink, and
that before the end of the emulator. The first two call for killing it. -/
def wake (s : State) : Option State :=
  if s.interrupt then some { s with stop := some .interrupted, killed := true }
  else match s.writer, s.child with
    | .failed _, _ => some { s with stop := some .aborted, killed := true }
    | _, some result => some { s with stop := some (.ended result) }
    | _, none => none

/-- What a move does, or nothing if it cannot be made now. -/
def step (f : Filter) (patience : Option Nat) (s : State) : Move → Option State
  | .read pipe =>
    let r := s.reader pipe
    if r.phase = .reading && r.outbox.isNone then some (s.withReader (r.read f patience) pipe)
    else none
  | .send pipe =>
    let r := s.reader pipe
    match r.outbox with
    | some bytes =>
      if s.queue.length < capacity then
        some { s.withReader { r with outbox := none } pipe with queue := s.queue ++ [bytes] }
      else none
    | none => none
  | .receive =>
    match s.writer, s.held, s.queue with
    | .writing, none, bytes :: rest => some { s with queue := rest, held := some bytes }
    | _, _, _ => none
  | .write failure =>
    match s.writer, s.held, failure with
    | .writing, some _, some cause => some { s with writer := .failed cause }
    | .writing, some bytes, none => some { s with held := none, written := bytes :: s.written }
    | _, _, _ => none
  | .close =>
    if s.writer = .writing && s.held.isNone && s.queue.isEmpty && s.out.isDone && s.err.isDone then
      some { s with writer := .finished }
    else none
  | .interrupt => some { s with interrupt := true }
  | .exit result => if s.child.isNone then some { s with child := some result } else none
  | .wake => if s.stop.isNone then s.wake else none
  | .reap => if s.killed then some { s with reaped := true } else none

/-- Makes moves one after another. -/
def steps (f : Filter) (patience : Option Nat) (s : State) : List Move → Option State
  | [] => some s
  | m :: rest => (s.step f patience m).bind fun next => next.steps f patience rest

/-- What the wait came to. -/
def waited? (s : State) : Option (Except LaunchError Outcome) :=
  match s.stop with
  | none => none
  | some (.ended (.ok status)) => some (.ok (.ofStatus status))
  | some (.ended (.error cause)) => some (.error (.stream cause))
  | some .interrupted => if s.reaped then some (.ok .interrupted) else none
  | some .aborted => if s.reaped then some (.ok .interrupted) else none

/-- The failures of the readers, that of the first output first. -/
def readFailure? (s : State) : Option Failure :=
  match s.out.phase, s.err.phase with
  | .failed cause, _ => some cause
  | _, .failed cause => some cause
  | _, _ => none

/-- The result once wait and writer are through: a failure of the sink comes first, then one of an
output, then what the wait came to. -/
def result? (s : State) : Option (Except LaunchError Outcome) :=
  match s.waited?, s.writer with
  | none, _ => none
  | _, .writing => none
  | _, .failed cause => some (.error (.stream cause))
  | some waited, .finished =>
    match s.readFailure? with
    | some cause => some (.error (.stream cause))
    | none => some waited

end State

/-! ### One order of moves -/

/-- What surrounds a supervision: the bytes whose appearance calls for an interrupt, and the number
of writes that the sink takes before it fails. -/
structure Surroundings where
  trigger : Option Bytes
  budget : Option Nat
  deriving Repr, DecidableEq

/-- The stream of one output. -/
def eventsOf (pipe : Pipe) (activities : List Activity) : List Event :=
  activities.filterMap fun
    | .writes p bytes => if p = pipe then some (.data bytes) else none
    | .rests ms => some (.idle ms)

/-- The chunks of an output that are finished while more may come. -/
def finished (f : Filter) (patience : Option Nat) (pipe : Pipe) (activities : List Activity) :
    Bytes :=
  let events := eventsOf pipe activities ++ [.failed .brokenPipe]
  (f.chunks .start (Noise.chunks patience events).1).flatten

/-- Whether the trigger has appeared. -/
def hasFired (f : Filter) (patience : Option Nat) (trigger : Bytes) (activities : List Activity) :
    Bool :=
  trigger.isEmpty || trigger.holds (finished f patience .stdout activities) ||
    trigger.holds (finished f patience .stderr activities)

/-- The activities until an interrupt takes effect, which is at the next rest. Those of the past
stand last first. -/
def untilInterrupt (f : Filter) (patience : Option Nat) (trigger : Bytes) (past : List Activity) :
    List Activity → Option (List Activity)
  | [] => if hasFired f patience trigger past.reverse then some past.reverse else none
  | .rests ms :: rest =>
    if hasFired f patience trigger (.rests ms :: past).reverse then some past.reverse
    else untilInterrupt f patience trigger (.rests ms :: past) rest
  | .writes pipe bytes :: rest =>
    untilInterrupt f patience trigger (.writes pipe bytes :: past) rest

/-- The activities that take place, if an interrupt cuts them off. -/
def interruptedAt? (f : Filter) (patience : Option Nat) (trigger : Option Bytes)
    (activities : List Activity) : Option (List Activity) :=
  match trigger with
  | none => none
  | some [] => some []
  | some bytes => untilInterrupt f patience bytes [] activities

/-- The next move when there is nothing to write: the outputs are read one after the other, and then
the writer finishes. -/
def nextRead (s : State) : Move :=
  if s.out.outbox.isSome then .send .stdout
  else if s.err.outbox.isSome then .send .stderr
  else if s.out.phase = .reading then .read .stdout
  else if s.err.phase = .reading then .read .stderr
  else .close

/-- The next move: what is queued is written first, then the outputs are read, and the wait comes
last. -/
def nextMove (budget : Option Nat) (interrupted : Bool) (status : ExitStatus) (s : State) :
    Option Move :=
  if s.writer = .writing then
    if s.held.isSome then
      some (.write (if budget.any (· = s.written.length) then some .brokenPipe else none))
    else if !s.queue.isEmpty then some .receive
    else some (nextRead s)
  else match s.stop with
    | none =>
      if interrupted && !s.interrupt then some .interrupt
      else if !interrupted && s.child.isNone then some (.exit (.ok status))
      else some .wake
    | some _ => if s.killed && !s.reaped then some .reap else none

/-- Moves in this order until no move is left. -/
def drive (f : Filter) (patience budget : Option Nat) (interrupted : Bool) (status : ExitStatus) :
    (fuel : Nat) → State → State
  | 0, s => s
  | fuel + 1, s =>
    match (nextMove budget interrupted status s).bind (s.step f patience) with
    | some next => drive f patience budget interrupted status fuel next
    | none => s

/-- What is written of a run, and what it comes to. -/
structure Supervised where
  written : List Bytes
  result : Except LaunchError Outcome

/-- Supervises a process. -/
def supervise (f : Filter) (patience : Option Nat) (around : Surroundings) (run : Run) :
    Supervised :=
  let cut := interruptedAt? f patience around.trigger run.activities
  let activities := cut.getD run.activities
  let out := eventsOf .stdout activities
  let err := eventsOf .stderr activities
  let fuel := 4 * (Noise.weight out + Noise.weight err) + 16
  let s := drive f patience around.budget cut.isSome run.status fuel (.start out err)
  ⟨s.written.reverse, s.result?.getD (.ok .interrupted)⟩

end PxeLaunch.Supervision

import PxeLaunch.Host.Process
import PxeLaunch.Script.Number

/-!
The state of a script that is being run: its variables, the streams that its descriptors lead to,
what it has done so far and when, and whether it goes on with the next command.
-/

set_option autoImplicit false

namespace PxeLaunch.Script

/-- What comes after a command. An error leaves all commands around it, up to a utility that is
allowed to fail. -/
inductive Jump where
  | onward
  | breaks (loops : Nat)
  | continues (loops : Nat)
  | returns
  | failed
  | ended (status : ExitStatus)
  deriving DecidableEq

/-- A variable, which may be known to other programs, or fixed. -/
structure Variable where
  value : Option Chars
  isExported : Bool
  isFixed : Bool

/-- Where bytes go to and come from. What is fed through a stream keeps the time at which it was
written; a feed ends at some time, too. -/
inductive Stream where
  | console (pipe : Pipe)
  | nowhere
  | file (key : Key) (offset : Nat) (appends : Bool)
  | feed (pieces : List (Nat × Bytes)) (ends : Nat)
  | sink (pieces : List (Nat × Bytes))

/-- What was written to a stream. -/
def Stream.written : Stream → List (Nat × Bytes)
  | .sink pieces => pieces.reverse
  | _ => []

/-- Bytes that were written to an output at some time by some process. -/
structure Moment where
  time : Nat
  process : Nat
  pipe : Pipe
  bytes : Bytes

/-- A process in the background: its number, that of the last process that it made, when it ends,
and how. -/
structure Job where
  process : Nat
  last : Nat
  ends : Nat
  status : ExitStatus

/-- Where the reader of options stands: at an argument, and inside of it. -/
structure OptionPlace where
  index : Nat
  offset : Option Nat

/-- The state of a script. The latest moment stands first. Commands that are guarded may fail
although the script is strict; the caller is the utility in whose name errors are shown. A script
has a number of its own, and so has each process that runs a part of it. Signals wait, each with the
number of the process that it was sent to. What the script writes to can be seen to end only at the
latest time at which a process has it open. -/
structure Shell where
  files : Files
  name : Chars
  script : Nat
  process : Nat
  ancestors : List Nat
  line : Nat
  lineRead : Nat
  caller : Option Chars
  arguments : List Chars
  optionPlace : OptionPlace
  bindings : List (Chars × Variable)
  locals : Option (List (Chars × Option Variable))
  functions : List (Chars × Tree)
  traps : List (Nat × Chars)
  trapStatus : Option Nat
  signals : List (Nat × Nat)
  options : Chars
  mask : Nat
  streams : Array Stream
  descriptors : List (Nat × Nat)
  clock : Nat
  moments : List Moment
  jobs : List Job
  lastJob : Option Nat
  latest : Nat
  processes : Nat
  status : Nat
  outputStatus : Option Nat
  jump : Jump
  guarded : Bool
  loops : Nat

namespace Shell

/-! ### Going on -/

def goesOn (s : Shell) : Bool := s.jump = .onward

/-- The state with a status. -/
def answer (s : Shell) (status : Nat) : Shell := { s with status := status }

/-- The state after the last command. -/
def finish (s : Shell) (status : ExitStatus) : Shell := { s with jump := .ended status }

/-- How the script ended, if no command is left. -/
def ending (s : Shell) : ExitStatus :=
  match s.jump with
  | .ended (.exited code) => .exited (code % 256)
  | .ended status => status
  | _ => .exited (s.status % 256)

def has (s : Shell) (option : Char) : Bool := s.options.contains option

/-- Turns an option on or off. -/
def switch (s : Shell) (on : Bool) (option : Char) : Shell :=
  let others := s.options.filter (· != option)
  { s with options := if on then option :: others else others }

/-! ### Files -/

/-- A name as a path. -/
def pathOf (name : Chars) : Path := ⟨name.toBytes⟩

/-- The folder that the script works in. -/
def folder (s : Shell) : Chars :=
  if s.files.here.isEmpty then ['/']
  else Chars.ofBytes (s.files.here.flatMap (Bytes.slash :: ·))

/-- What the system says when it refuses. -/
def reason (e : Failure) : Chars :=
  let text := e.message.toList
  let tail := (text.reverse.dropWhile (· != '(')).reverse
  if tail.isEmpty then text else tail.dropLast.dropLast

/-- Changes the content of the file under a key. -/
def revise (s : Shell) (key : Key) (f : Bytes → Bytes) : Shell :=
  match s.files.entry? key with
  | some (.file content access) =>
    { s with files := s.files.put key (.file (f content) access) }
  | _ => s

def contentOf (s : Shell) (key : Key) : Bytes :=
  match s.files.entry? key with
  | some (.file content _) => content
  | _ => []

/-! ### Streams -/

/-- The place of the stream that a descriptor leads to. -/
def place? (s : Shell) (descriptor : Nat) : Option Nat := s.descriptors.lookup descriptor

def stream? (s : Shell) (descriptor : Nat) : Option Stream :=
  (s.place? descriptor).bind fun i => s.streams[i]?

/-- Leads a descriptor to the stream at a place. -/
def lead (s : Shell) (descriptor place : Nat) : Shell :=
  { s with descriptors := (descriptor, place) :: s.descriptors.filter (·.1 != descriptor) }

def close (s : Shell) (descriptor : Nat) : Shell :=
  { s with descriptors := s.descriptors.filter (·.1 != descriptor) }

/-- Leads a descriptor to a new stream. -/
def connect (s : Shell) (descriptor : Nat) (stream : Stream) : Shell :=
  { s with streams := s.streams.push stream }.lead descriptor s.streams.size

def putStream (s : Shell) (place : Nat) (stream : Stream) : Shell :=
  { s with streams := s.streams.setIfInBounds place stream }

/-- Bytes with others in the place of those from an offset on. -/
def overlaid (offset : Nat) (bytes content : Bytes) : Bytes :=
  content.take offset ++ List.replicate (offset - content.length) 0 ++ bytes ++
    content.drop (offset + bytes.length)

/-- Writes bytes to a descriptor. Nothing comes of writing to one that is closed. -/
def send (s : Shell) (descriptor : Nat) (bytes : Bytes) : Shell :=
  if bytes.isEmpty then s
  else match s.place? descriptor with
    | none => s
    | some i =>
      match s.streams[i]? with
      | some (.console pipe) =>
        { s with moments := ⟨s.clock, s.process, pipe, bytes⟩ :: s.moments }
      | some (.sink pieces) => s.putStream i (.sink ((s.clock, bytes) :: pieces))
      | some (.file key offset appends) =>
        let start := if appends then (s.contentOf key).length else offset
        (s.revise key (overlaid start bytes)).putStream i
          (.file key (start + bytes.length) appends)
      | _ => s

def write (s : Shell) (descriptor : Nat) (cs : Chars) : Shell := s.send descriptor cs.toBytes

/-- Whether bytes can be written to a descriptor. -/
def canWrite (s : Shell) (descriptor : Nat) : Bool :=
  match s.stream? descriptor with
  | some (.feed _ _) => false
  | some _ => true
  | none => false

/-- The state at some time, if that is not over. -/
def waitUntil (s : Shell) (time : Nat) : Shell := { s with clock := max s.clock time }

/-- Takes all that is left in a stream: pieces with their times. -/
def drainPieces (s : Shell) (descriptor : Nat) : List (Nat × Bytes) × Shell :=
  match s.place? descriptor with
  | none => ([], s)
  | some i =>
    match s.streams[i]? with
    | some (.feed pieces ends) => (pieces, s.putStream i (.feed [] ends))
    | some (.file key offset appends) =>
      let content := s.contentOf key
      ([(s.clock, content.drop offset)], s.putStream i (.file key content.length appends))
    | _ => ([], s)

/-- The time at which the end of a stream can be seen. -/
def endOf (s : Shell) (descriptor : Nat) : Nat :=
  match s.stream? descriptor with
  | some (.feed _ ends) => ends
  | _ => s.clock

/-- Takes all that is left in a stream and waits for its end. -/
def drain (s : Shell) (descriptor : Nat) : Bytes × Shell :=
  let (pieces, t) := s.drainPieces descriptor
  (pieces.flatMap (·.2), t.waitUntil (s.endOf descriptor))

/-- A line at the front of pieces, whether it has its newline, when it is there, and what is
left. -/
def lineOf (found : Bytes) (time : Nat) : List (Nat × Bytes) →
    Bytes × Bool × Nat × List (Nat × Bytes)
  | [] => (found, false, time, [])
  | (t, bytes) :: rest =>
    let line := bytes.takeWhile (· != Bytes.newline)
    if line.length < bytes.length then
      let left := bytes.drop (line.length + 1)
      (found ++ line, true, max time t, if left.isEmpty then rest else (t, left) :: rest)
    else lineOf (found ++ line) (max time t) rest

/-- Takes a line without its newline, and says whether it had one. -/
def takeLine (s : Shell) (descriptor : Nat) : Bytes × Bool × Shell :=
  match s.place? descriptor with
  | none => ([], false, s)
  | some i =>
    match s.streams[i]? with
    | some (.feed pieces ends) =>
      let (line, ended, time, rest) := lineOf [] s.clock pieces
      (line, ended, (s.putStream i (.feed rest ends)).waitUntil (if ended then time else ends))
    | some (.file key offset appends) =>
      let left := (s.contentOf key).drop offset
      let line := left.takeWhile (· != Bytes.newline)
      let ended := line.length < left.length
      let next := offset + line.length + if ended then 1 else 0
      (line, ended, s.putStream i (.file key next appends))
    | _ => ([], false, s)

/-- Gives bytes back to a stream, if it is a feed. -/
def giveBack (s : Shell) (descriptor : Nat) (bytes : Bytes) : Shell :=
  match s.place? descriptor with
  | none => s
  | some i =>
    match s.streams[i]? with
    | some (.feed pieces ends) =>
      s.putStream i (.feed (if bytes.isEmpty then pieces else (s.clock, bytes) :: pieces) ends)
    | some (.file key offset appends) => s.putStream i (.file key (offset - bytes.length) appends)
    | _ => s

/-! ### Showing -/

/-- Shows a text, which is a success. -/
def say (s : Shell) (cs : Chars) : Shell := (s.write 1 cs).answer 0

/-- Shows a text as an error. -/
def complain (s : Shell) (text : Chars) (status : Nat) : Shell :=
  (s.write 2 (text ++ ['\n'])).answer status

/-- Shows an error with the place where it arose. -/
def complainHere (s : Shell) (text : Chars) (status : Nat) : Shell :=
  let caller := match s.caller with
    | some name => name ++ ": ".toList
    | none => []
  s.complain (s.name ++ ": ".toList ++ natText s.line ++ ": ".toList ++ caller ++ text) status

/-- Shows an error that leaves the commands around it. -/
def fail (s : Shell) (text : Chars) : Shell := { s.complainHere text 2 with jump := .failed }

def rest (s : Shell) (milliseconds : Nat) : Shell := { s with clock := s.clock + milliseconds }

/-! ### Variables -/

def lookUp? (s : Shell) (name : Chars) : Option Variable := s.bindings.lookup name

def setVariable (s : Shell) (name : Chars) (v : Variable) : Shell :=
  { s with bindings := (name, v) :: s.bindings.filter (·.1 != name) }

/-- Whether a variable may be given a value. -/
def isFixed (s : Shell) (name : Chars) : Bool := (s.lookUp? name).any (·.isFixed)

/-- Gives a variable a value. The number of the next option is one of them. -/
def assign (s : Shell) (name value : Chars) : Shell :=
  let s := if name = "OPTIND".toList then
    { s with optionPlace := ⟨max 1 (natOf 10 (value.takeWhile Char.isDigit)), none⟩ } else s
  match s.lookUp? name with
  | some v =>
    s.setVariable name { v with value := some value, isExported := v.isExported || s.has 'a' }
  | none => s.setVariable name ⟨some value, s.has 'a', false⟩

/-- Gives a variable a value unless it is fixed, which ends the script. -/
def tryAssign (s : Shell) (name value : Chars) : Shell :=
  if s.isFixed name then s.fail (name ++ ": is read only".toList) else s.assign name value

def discard (s : Shell) (name : Chars) : Shell :=
  { s with bindings := s.bindings.filter (·.1 != name) }

/-- The characters at which the values of expansions are cut. -/
def separators (s : Shell) : Chars :=
  match s.lookUp? ['I', 'F', 'S'] with
  | some v => v.value.getD []
  | none => " \t\n".toList

/-- The arguments as one text, with the first separator between them. -/
def allArguments (s : Shell) : Chars := (s.separators.take 1).intercalate s.arguments

/-- The letters of options, in the order in which they are shown. -/
def optionLetters : Chars := "efImnsxvVECabu".toList

/-- The value of a variable or of a parameter. -/
def value? (s : Shell) (name : Chars) : Option Chars :=
  match name with
  | ['?'] => some (natText s.status)
  | ['$'] => some (natText s.script)
  | ['#'] => some (natText s.arguments.length)
  | ['!'] => s.lastJob.map natText
  | ['-'] => some (optionLetters.filter s.has)
  | ['*'] => some s.allArguments
  | ['@'] => some s.allArguments
  | _ =>
    if name.all Char.isDigit then
      let n := natOf 10 name
      if n = 0 then some s.name else s.arguments[n - 1]?
    else match s.lookUp? name with
      | some v => v.value
      | none => if name = ['P', 'W', 'D'] then some s.folder else none

def value (s : Shell) (name : Chars) : Chars := (s.value? name).getD []

/-- The variables of a script that has given none a value. -/
def firstVariables : List (Chars × Variable) :=
  let plain (name value : String) : Chars × Variable :=
    (name.toList, ⟨some value.toList, false, false⟩)
  let exported (name value : String) : Chars × Variable :=
    (name.toList, ⟨some value.toList, true, false⟩)
  [plain "IFS" " \t\n", plain "OPTIND" "1", plain "PS1" "# ", plain "PS2" "> ", plain "PS4" "+ ",
   exported "HOME" "/root",
   exported "PATH" "/usr/local/sbin:/usr/local/bin:/usr/sbin:/usr/bin:/sbin:/bin"]

/-- The number of the first process. -/
def firstProcess : Nat := 4096

/-- A script before its first command. -/
def start (files : Files) (name : Chars) (arguments : List Chars) (stdin : Bytes) : Shell where
  files := files
  name := name
  script := firstProcess
  process := firstProcess
  ancestors := []
  line := 1
  lineRead := 1
  caller := none
  arguments := arguments
  optionPlace := ⟨1, none⟩
  bindings := firstVariables
  locals := none
  functions := []
  traps := []
  trapStatus := none
  signals := []
  options := []
  mask := 18
  streams := #[.feed (if stdin.isEmpty then [] else [(0, stdin)]) 0, .console .stdout,
    .console .stderr]
  descriptors := [(0, 0), (1, 1), (2, 2)]
  clock := 0
  moments := []
  jobs := []
  lastJob := none
  latest := 0
  processes := firstProcess
  status := 0
  outputStatus := none
  jump := .onward
  guarded := false
  loops := 0

/-- The activities of a script, in the order of their times. -/
def activities (s : Shell) : List Activity :=
  let moments := s.moments.reverse.mergeSort fun a b => a.time ≤ b.time
  let last := max s.clock s.latest
  let (found, time) := moments.foldl (fun (found, time) m =>
    let rests := if time < m.time then [Activity.rests (m.time - time)] else []
    (.writes m.pipe m.bytes :: rests ++ found, m.time)) (([] : List Activity), 0)
  ((if time < last then [Activity.rests (last - time)] else []) ++ found).reverse

end Shell

end PxeLaunch.Script

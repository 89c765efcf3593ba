import PxeLaunch.Launch.Invocation
import PxeLaunch.Launch.Supervision

/-!
A launch from start to end: the image is built, the emulator is wired to it and started, and its
output is filtered until it ends. Every step is taken once; a launch that has been run is not run
again.
-/

set_option autoImplicit false

namespace PxeLaunch

/-- What a launch needs besides the profile. Times are in milliseconds. -/
structure Launch.Settings where
  toolchain : Toolchain
  emulatorProgram : Option Path
  killGrace : Nat
  idleFlush : Nat
  deriving DecidableEq

/-- The settings with the usual times. -/
def Launch.Settings.default (toolchain : Toolchain) : Launch.Settings :=
  ⟨toolchain, none, 5000, 100⟩

/-- A launch: what is launched, how far it has come, the states that it has been in, and the
commands that the host was given for it. -/
structure Launch where
  profile : Profile
  settings : Launch.Settings
  stage : Stage
  history : List Stage
  commands : List Command

namespace Launch

/-- A launch that has not been run. -/
def ofProfile (p : Profile) (settings : Launch.Settings) : Launch :=
  ⟨p, settings, .idle, [.idle], []⟩

/-- The launch in its next state. -/
def enter (o : Launch) (s : Stage) : Launch :=
  { o with stage := s, history := o.history ++ [s] }

/-- The launch after a command was given to the host. -/
def gave (o : Launch) (c : Command) : Launch :=
  { o with commands := o.commands ++ [c] }

/-- The program that emulates the machine. -/
def emulatorProgram (o : Launch) : Path :=
  o.settings.emulatorProgram.getD (.ofString o.profile.architecture.emulatorProgram)

def projectDir (o : Launch) : Path := o.settings.toolchain.projectDir

/-- Refuses a profile whose firmware image is not there. -/
def checkFirmware (o : Launch) (files : Files) : Except LaunchError Unit :=
  match o.profile.firmwarePath o.projectDir with
  | none => .ok ()
  | some path =>
    if files.isFile path then .ok ()
    else .error (.launchFailed o.profile.architecture (.noFirmware path))

/-- The invocation of the emulator for an image that has been built. -/
def plan (o : Launch) (files : Files) (host : Option Architecture) (artifact : Path) :
    Except LaunchError Invocation := do
  o.checkFirmware files
  let wiring ← Wiring.serve files o.profile artifact
  Invocation.ofProfile o.profile o.emulatorProgram (o.profile.firmwarePath o.projectDir) wiring
    host

/-- The filter for the profile's noise. -/
def filter (o : Launch) : Except LaunchError Noise.Filter :=
  match Noise.Filter.compile o.profile.noise with
  | .ok f => .ok f
  | .error cause => .error (.misconfigured o.profile.architecture (.filter cause))

/-- The invocation and the filter for an image that has been built. -/
def prepare (o : Launch) (files : Files) (host : Option Architecture) (artifact : Path) :
    Except LaunchError (Invocation × Noise.Filter) := do
  let invocation ← o.plan files host artifact
  return (invocation, ← o.filter)

/-- The command that starts the emulator. -/
def startCommand (o : Launch) (i : Invocation) (stdin : Bytes) : Command where
  program := i.program
  args := i.args
  directory := some o.projectDir
  stdin := stdin

/-- What comes of a launch: the launch and the files after it, what the toolchain and the emulator
showed, and how it ended. -/
structure Launched where
  launch : Launch
  files : Files
  buildOutput : Bytes
  buildComplaint : Bytes
  written : List Bytes
  result : Except LaunchError Outcome

/-- How running processes are supervised. -/
abbrev Supervisor := Noise.Filter → Run → Supervision.Supervised

/-- Starts the emulator and supervises it. -/
def boot (host : Host) (supervisor : Supervisor) (files : Files) (stdin : Bytes) (o : Launch)
    (i : Invocation) (f : Noise.Filter) :
    Launch × Files × List Bytes × Except LaunchError Outcome :=
  let command := o.startCommand i stdin
  match host.execute files command with
  | .error cause =>
    ((o.gave command).enter .failed, files, [],
      .error (.launchFailed o.profile.architecture (.notStarted i.program cause)))
  | .ok run =>
    let supervised := supervisor f run
    (((o.gave command).enter .running).enter .terminated, run.files, supervised.written,
      supervised.result)

/-- Plans the launch of an image that has been built, and boots it. -/
def launch (host : Host) (supervisor : Supervisor) (files : Files) (stdin : Bytes)
    (o : Launch) (artifact : Path) :
    Launch × Files × List Bytes × Except LaunchError Outcome :=
  match o.prepare files host.architecture artifact with
  | .error cause => (o.enter .failed, files, [], .error cause)
  | .ok (invocation, f) => boot host supervisor files stdin o invocation f

/-- Runs a launch: builds, plans, boots and supervises. -/
def run (host : Host) (supervisor : Supervisor) (files : Files) (stdin : Bytes)
    (o : Launch) : Launched :=
  if o.stage != .idle then
    ⟨o, files, [], [], [], .error (.misconfigured o.profile.architecture (.alreadyRan o.stage))⟩
  else
    let building := (o.enter .building).gave (o.settings.toolchain.command o.profile)
    let built := o.settings.toolchain.build host files o.profile
    match built.result with
    | .error cause =>
      ⟨building.enter .failed, built.files, built.stdout, built.stderr, [], .error cause⟩
    | .ok artifact =>
      let (after, files, written, result) :=
        launch host supervisor built.files stdin (building.enter .launching) artifact
      ⟨after, files, built.stdout, built.stderr, written, result⟩

/-- The usual supervision of a launch. -/
def supervisor (o : Launch) (around : Supervision.Surroundings) : Supervisor :=
  fun f run => Supervision.supervise f (some o.settings.idleFlush) around run

end Launch

end PxeLaunch

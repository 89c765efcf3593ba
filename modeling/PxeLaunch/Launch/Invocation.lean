import PxeLaunch.Launch.Wiring

/-!
The command that runs the emulator, with everything that the profile says about the machine.
-/

set_option autoImplicit false

namespace PxeLaunch

/-- A program with its arguments. -/
structure Invocation where
  program : Path
  args : List Bytes
  deriving Repr, DecidableEq

namespace Invocation

/-- An option with its value, if there is one. -/
def option (name : String) : Option Bytes → List Bytes
  | some value => [.ofString name, value]
  | none => []

/-- The arguments for a machine with given firmware and wiring. -/
def machineArgs (p : Profile) (firmware : Option Path) (w : Wiring) : List Bytes :=
  option "-machine" (p.machine.map Bytes.ofString) ++
  option "-cpu" (p.cpuModel.map Bytes.ofString) ++
  option "-accel" (p.acceleration.map fun mode => Bytes.ofString mode.name) ++
  option "-smp" (some (.ofString (toString p.processors.toNat))) ++
  option "-m" (some (.ofString (toString p.memoryMb.toNat))) ++
  [.ofString "-nographic"] ++
  option "-bios" (firmware.map Path.bytes) ++
  w.args

/-- The invocation for a profile on a host, which must be able to help if it is asked to. -/
def ofProfile (p : Profile) (program : Path) (firmware : Option Path) (w : Wiring)
    (host : Option Architecture) : Except LaunchError Invocation :=
  match p.checkHost host with
  | .error cause => .error (.profile cause)
  | .ok () => .ok ⟨program, machineArgs p firmware w⟩

/-- The invocation on one line, for people to read. -/
def commandLine (i : Invocation) : String :=
  " ".intercalate ((i.program.bytes :: i.args).map Utf8.decodeLossy)

end Invocation

end PxeLaunch

/-!
The guest architectures and the modes in which a host helps to run them.
-/

set_option autoImplicit false

namespace PxeLaunch

/-- An instruction set that a guest may have. -/
inductive Architecture where
  | x86_64
  | aarch64
  | riscv64
  deriving Repr, DecidableEq

namespace Architecture

/-- Every architecture, in the order of lists. -/
def all : List Architecture := [.x86_64, .aarch64, .riscv64]

/-- The place of an architecture in lists. -/
def position : Architecture → Nat
  | .x86_64 => 0
  | .aarch64 => 1
  | .riscv64 => 2

/-- The name of an architecture in files, arguments and messages. -/
def name : Architecture → String
  | .x86_64 => "x86_64"
  | .aarch64 => "aarch64"
  | .riscv64 => "riscv64"

/-- The target that images for the architecture's firmware are built for. -/
def uefiTarget : Architecture → String
  | .x86_64 => "x86_64-unknown-uefi"
  | .aarch64 => "aarch64-unknown-uefi"
  | .riscv64 => "riscv64gc-unknown-uefi"

/-- The emulator that runs guests of the architecture. -/
def emulatorProgram : Architecture → String
  | .x86_64 => "qemu-system-x86_64"
  | .aarch64 => "qemu-system-aarch64"
  | .riscv64 => "qemu-system-riscv64"

/-- The architecture with a name or one of its aliases, in any case. -/
def ofName? (s : String) : Option Architecture :=
  match String.ofList (s.toList.map Char.toLower) with
  | "x86_64" => some .x86_64
  | "x86-64" => some .x86_64
  | "amd64" => some .x86_64
  | "aarch64" => some .aarch64
  | "arm64" => some .aarch64
  | "riscv64" => some .riscv64
  | "riscv" => some .riscv64
  | _ => none

end Architecture

/-- A mode in which the host's processor runs the guest. -/
inductive Acceleration where
  | kvm
  | hvf
  deriving Repr, DecidableEq

/-- The name of a mode in files and arguments. -/
def Acceleration.name : Acceleration → String
  | .kvm => "kvm"
  | .hvf => "hvf"

end PxeLaunch

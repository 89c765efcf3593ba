import PxeLaunch.Profile.Builtin
import PxeLaunch.Profile.Error
import PxeLaunch.Toml.Text

/-!
Profiles as documents. A profile is read from a document and written to one; writing puts the plain
fields first and the tables last, and reading what was written gives the profile again.
-/

set_option autoImplicit false

namespace PxeLaunch

open Toml (Value DecodeError)
open Toml.Decode (Field Shape Result required)

/-! ### Reading -/

def Architecture.read : Value → Result Architecture :=
  Toml.Decode.variant (Architecture.all.map fun a => (a.name, a))

def BuildMode.read : Value → Result BuildMode :=
  Toml.Decode.variant [("debug", .debug), ("release", .release)]

def NetworkDevice.read : Value → Result NetworkDevice :=
  Toml.Decode.variant [("e1000", .e1000), ("virtio-net-pci", .virtioNetPci)]

def Acceleration.read : Value → Result Acceleration :=
  Toml.Decode.variant [("kvm", .kvm), ("hvf", .hvf)]

def FirmwareKind.read : Value → Result FirmwareKind :=
  Toml.Decode.variant [("ovmf", .ovmf), ("aavmf", .aavmf), ("edk2-riscv", .edk2Riscv)]

/-- A path in a document is text. -/
def Path.read : Value → Result Path
  | .string s => .ok (.ofString s)
  | v => .error (.wrongType v "path string")

namespace Firmware

structure Draft where
  kind : Option FirmwareKind
  path : Option Path

def shape : Shape Draft Firmware where
  name := "struct Firmware"
  fields := [
    { key := "kind", hasDefault := false
      read := fun v d => return { d with kind := some (← FirmwareKind.read v) } },
    { key := "path", read := fun v d => return { d with path := some (← Path.read v) } }]
  blank := ⟨none, none⟩
  complete := fun d => return ⟨← required "kind" d.kind, d.path⟩

end Firmware

namespace NoisePattern

structure Draft where
  pattern : Option String
  replacement : Option String

def shape : Shape Draft NoisePattern where
  name := "struct NoisePattern"
  fields := [
    { key := "pattern", hasDefault := false
      read := fun v d => return { d with pattern := some (← Toml.Decode.string v) } },
    { key := "replacement", hasDefault := false
      read := fun v d => return { d with replacement := some (← Toml.Decode.string v) } }]
  blank := ⟨none, none⟩
  complete := fun d =>
    return ⟨← required "pattern" d.pattern, ← required "replacement" d.replacement⟩

end NoisePattern

namespace Support

/-- The two ways to be supported, by the value of the key `status`. -/
inductive Status where
  | supported
  | unsupported

/-- The key that says which way it is. -/
def tag : String := "status"

def Status.read : Value → Result Status
  | .string s => Toml.Decode.choice [("supported", .supported), ("unsupported", .unsupported)] s
  | v => .error (.wrongType v "variant identifier")

/-- The fields that stand beside the status of what is not supported. -/
def reasonShape : Shape (Option String) Support where
  name := "struct variant SupportStatus::Unsupported"
  fields := [{ key := "reason", hasDefault := false
               read := fun v _ => return some (← Toml.Decode.string v) }]
  blank := none
  complete := fun reason => return .unsupported (← required "reason" reason)

/-- Refuses items after the fields of an array. -/
def checkLength (found expected : Nat) : Result Unit :=
  if found ≤ expected then .ok ()
  else .error (.wrongLength found (Shape.countText expected ++ " in sequence"))

/-- The status is read first, wherever it stands, and then the fields that it calls for. -/
def read : Value → Result Support
  | .table entries => do
    match ← Status.read (← required tag (entries.lookup tag)) with
    | .supported => return .supported
    | .unsupported => reasonShape.read (.table (entries.filter (·.1 != tag)))
  | .array _ [] => .error (.missingField tag)
  | .array _ (v :: rest) => do
    match ← Status.read v with
    | .supported => do
      checkLength rest.length 0
      return .supported
    | .unsupported => do
      let support ← reasonShape.read (.array .bracketed rest)
      checkLength rest.length 1
      return support
  | .datetime _ => .error (.missingField tag)
  | v => .error (.wrongType v "internally tagged enum SupportStatus")

end Support

namespace Profile

structure Draft where
  architecture : Option Architecture
  buildTarget : Option String
  buildMode : BuildMode
  device : Option NetworkDevice
  memoryMb : Option UInt32
  processors : Option UInt32
  cpuModel : Option String
  machine : Option String
  acceleration : Option Acceleration
  firmware : Option Firmware
  support : Support
  noise : List NoisePattern

open Toml.Decode (string word32 list) in
/-- A profile is read from these keys, of which six must be there; other keys do not matter. -/
def shape : Shape Draft Profile where
  name := "struct ArchitectureProfile"
  fields := [
    { key := "architecture", hasDefault := false
      read := fun v d => return { d with architecture := some (← Architecture.read v) } },
    { key := "build-target", hasDefault := false
      read := fun v d => return { d with buildTarget := some (← string v) } },
    { key := "build-profile"
      read := fun v d => return { d with buildMode := ← BuildMode.read v } },
    { key := "network-device", hasDefault := false
      read := fun v d => return { d with device := some (← NetworkDevice.read v) } },
    { key := "memory-mb", hasDefault := false
      read := fun v d => return { d with memoryMb := some (← word32 v) } },
    { key := "smp", hasDefault := false
      read := fun v d => return { d with processors := some (← word32 v) } },
    { key := "cpu-model", read := fun v d => return { d with cpuModel := some (← string v) } },
    { key := "machine", read := fun v d => return { d with machine := some (← string v) } },
    { key := "acceleration"
      read := fun v d => return { d with acceleration := some (← Acceleration.read v) } },
    { key := "firmware", hasDefault := false
      read := fun v d => return { d with firmware := some (← Firmware.shape.read v) } },
    { key := "support", read := fun v d => return { d with support := ← Support.read v } },
    { key := "noise-patterns"
      read := fun v d => return { d with noise := ← list NoisePattern.shape.read v } }]
  blank := ⟨none, none, .debug, none, none, none, none, none, none, none, .supported, []⟩
  complete := fun d => return {
    architecture := ← required "architecture" d.architecture
    buildTarget := ← required "build-target" d.buildTarget
    buildMode := d.buildMode
    device := ← required "network-device" d.device
    memoryMb := ← required "memory-mb" d.memoryMb
    processors := ← required "smp" d.processors
    cpuModel := d.cpuModel
    machine := d.machine
    acceleration := d.acceleration
    firmware := ← required "firmware" d.firmware
    support := d.support
    noise := d.noise }

/-- The profile that a document describes. -/
def ofToml (text : String) : Except ProfileError Profile :=
  (Toml.decode shape text).mapError .badDocument

/-! ### Writing -/

/-- A line that sets a key to a string. -/
def stringLine (key value : String) : List Char :=
  key.toList ++ " = ".toList ++ Toml.Text.write value.toList ++ ['\n']

/-- A line that sets a key to a number. -/
def numberLine (key : String) (value : UInt32) : List Char :=
  key.toList ++ " = ".toList ++ (toString value.toNat).toList ++ ['\n']

/-- A line for a key that may have no value. -/
def optionalLine (key : String) : Option String → List Char
  | some value => stringLine key value
  | none => []

/-- The line that starts a table. -/
def header (name : String) : List Char := '\n' :: name.toList ++ ['\n']

/-- The plain fields. -/
def writeFields (p : Profile) : List Char :=
  stringLine "architecture" p.architecture.name ++
  stringLine "build-target" p.buildTarget ++
  stringLine "build-profile" p.buildMode.name ++
  stringLine "network-device" p.device.name ++
  numberLine "memory-mb" p.memoryMb ++
  numberLine "smp" p.processors ++
  optionalLine "cpu-model" p.cpuModel ++
  optionalLine "machine" p.machine ++
  optionalLine "acceleration" (p.acceleration.map Acceleration.name) ++
  (if p.noise.isEmpty then "noise-patterns = []\n".toList else [])

/-- The table of the firmware, whose path has been turned into text. -/
def writeFirmware (kind : FirmwareKind) (path : Option String) : List Char :=
  header "[firmware]" ++ stringLine "kind" kind.name ++ optionalLine "path" path

def writeSupport : Support → List Char
  | .supported => header "[support]" ++ stringLine "status" "supported"
  | .unsupported reason =>
    header "[support]" ++ stringLine "status" "unsupported" ++ stringLine "reason" reason

def writeNoise (n : NoisePattern) : List Char :=
  header "[[noise-patterns]]" ++ stringLine "pattern" n.pattern ++
    stringLine "replacement" n.replacement

/-- The path of the firmware as text, if it has one. -/
def firmwareText (p : Profile) : Except ProfileError (Option String) :=
  match p.firmware.path with
  | none => .ok none
  | some path =>
    match path.text? with
    | some text => .ok (some text)
    | none => .error .unwritable

/-- The document that describes a profile. A path that is no text cannot be written. -/
def toToml (p : Profile) : Except ProfileError String := do
  let path ← p.firmwareText
  return String.ofList (p.writeFields ++ writeFirmware p.firmware.kind path ++
    writeSupport p.support ++ p.noise.flatMap writeNoise)

/-- A document to start from: the builtin profile, taken to be supported. -/
def template (a : Architecture) : Except ProfileError String :=
  toToml { builtin a with support := .supported }

end Profile

end PxeLaunch

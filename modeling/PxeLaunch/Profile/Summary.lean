import PxeLaunch.Profile.Registry
import PxeLaunch.Text.Lines

/-!
Profiles as people read them: all of them in a table, or one in detail.
-/

set_option autoImplicit false

namespace PxeLaunch

/-- Whether a profile is expected to work, in words. -/
def Support.label : Support → String
  | .supported => "supported"
  | .unsupported reason => s!"unsupported: {reason}"

namespace Profile

/-- A profile in the table. Columns are as wide as the usual names need; a longer name moves the
rest of its line. -/
def row (p : Profile) : String :=
  let architecture := Lines.padded 9 p.architecture.name
  let target := Lines.padded 26 p.buildTarget
  let device := Lines.padded 15 p.device.name
  s!"  {architecture} {target} {device} {p.support.label}"

/-- The table of all profiles. -/
def table (r : Registry) : String :=
  Lines.ofList (
    ["Registered profiles:", ""] ++ r.toList.map row ++
    ["", "Use 'netboot profiles describe <arch>' for details."])

/-- A line for a value that may be missing. -/
def optionalRow (label : String) : Option String → List String
  | some value => [label ++ value]
  | none => []

/-- The part on the machine. -/
def machineRows (p : Profile) : List String :=
  ["--- Machine ---", s!"  Emulator: {p.architecture.emulatorProgram}"] ++
  optionalRow "  Machine:  " p.machine ++
  optionalRow "  CPU:      " p.cpuModel ++
  [s!"  vCPUs:    {p.processors.toNat}",
   s!"  Memory:   {p.memoryMb.toNat} MiB",
   "  Accel:    " ++ (p.acceleration.map Acceleration.name).getD "none"]

/-- The part on what the machine boots from. -/
def bootRows (p : Profile) (projectDir : Path) : List String :=
  ["--- Boot ---", s!"  Firmware: {p.firmware.kind.label}"] ++
  optionalRow "  Image:    " ((p.firmwarePath projectDir).map Path.display) ++
  [s!"  NIC:      {p.device.name}"]

/-- The part on noise. -/
def noiseRows (p : Profile) : List String :=
  "--- Noise rules ---" ::
  (if p.noise.isEmpty then ["  (none)"]
    else p.noise.map fun n => s!"  {n.pattern} => {n.replacement}")

/-- One profile in detail. -/
def description (p : Profile) (projectDir : Path) : String :=
  Lines.ofList (
    [s!"=== Profile: {p.architecture.name} ===", s!"Status: {p.support.label}", "",
     "--- Build ---", s!"  Target:  {p.buildTarget}", s!"  Profile: {p.buildMode.name}", ""] ++
    p.machineRows ++ [""] ++
    p.bootRows projectDir ++ [""] ++
    p.noiseRows)

end Profile

end PxeLaunch

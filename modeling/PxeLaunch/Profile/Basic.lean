import PxeLaunch.Architecture
import PxeLaunch.Device

/-!
Launch profiles. A profile says how the image for one architecture is built, which machine boots it,
and which console lines of that machine's firmware are noise.
-/

set_option autoImplicit false

namespace PxeLaunch

/-- How far an image is optimised. -/
inductive BuildMode where
  | debug
  | release
  deriving Repr, DecidableEq

/-- The name of a mode in files, and of the folder that its images are in. -/
def BuildMode.name : BuildMode → String
  | .debug => "debug"
  | .release => "release"

/-- Whether a profile is expected to work. -/
inductive Support where
  | supported
  | unsupported (reason : String)
  deriving Repr, DecidableEq

/-- A rule of the noise filter as it is written: a line that `pattern` matches at its start is
replaced by `replacement`. -/
structure NoisePattern where
  pattern : String
  replacement : String
  deriving Repr, DecidableEq

/-- The notation that is matched: the pattern, tied to the start of the line. -/
def NoisePattern.anchored (p : NoisePattern) : String := "^(?:" ++ p.pattern ++ ")"

/-- What it takes to build and boot the image for one architecture. -/
structure Profile where
  architecture : Architecture
  buildTarget : String
  buildMode : BuildMode
  device : NetworkDevice
  memoryMb : UInt32
  processors : UInt32
  cpuModel : Option String
  machine : Option String
  acceleration : Option Acceleration
  firmware : Firmware
  support : Support
  noise : List NoisePattern
  deriving Repr, DecidableEq

namespace Profile

/-- The image that a build leaves below the folder for its output. -/
def artifactPath (p : Profile) (outputRoot : Path) (artifact : String) : Path :=
  ((outputRoot.joinText p.buildTarget).joinText p.buildMode.name).joinText artifact

/-- The firmware image; a relative path is taken from the folder of the project. -/
def firmwarePath (p : Profile) (projectDir : Path) : Option Path :=
  p.firmware.path.map projectDir.join

def isSupported (p : Profile) : Bool := p.support = .supported

/-- The profile built in another mode. -/
def withBuildMode (p : Profile) (mode : BuildMode) : Profile := { p with buildMode := mode }

/-- The profile run without the host's help. -/
def withoutAcceleration (p : Profile) : Profile := { p with acceleration := none }

/-- Whether the firmware has a driver for the network device. -/
def bootsFromNetwork (p : Profile) : Bool := p.firmware.kind.supports p.device

/-- Whether the host can run the guest as the profile asks. -/
def fitsHost (p : Profile) (host : Option Architecture) : Bool :=
  p.acceleration.isNone || host = some p.architecture

end Profile

end PxeLaunch

import PxeLaunch.Host.Failure
import PxeLaunch.Profile.Issue
import PxeLaunch.Toml.Decode

/-!
What can go wrong with profiles: with their files, with the table that holds them, and with the host
they are meant for.
-/

set_option autoImplicit false

namespace PxeLaunch

/-- Why an architecture has no profile that can be used. -/
inductive Unusable where
  | unregistered
  | unsupported (reason : String)
  | stated (text : String)
  deriving Repr, DecidableEq

def Unusable.text : Unusable → String
  | .unregistered => "no profile registered"
  | .unsupported reason => s!"profile is marked unsupported: {reason}"
  | .stated text => text

/-- How a profile contradicts itself, its host or the rules for profiles. -/
inductive Conflict where
  | noDriver (kind : FirmwareKind) (device : NetworkDevice)
  | foreignHost (mode : Acceleration) (guest : Architecture) (host : Option Architecture)
  | invalid (place : String) (issues : List Issue)
  | stated (text : String)
  deriving Repr, DecidableEq

def Conflict.text : Conflict → String
  | .noDriver kind device => noDriverText kind device
  | .foreignHost mode guest host =>
    let hostName := (host.map Architecture.name).getD "unknown"
    s!"acceleration '{mode.name}' requires a {guest.name} host (host is {hostName}); " ++
      "disable it with --no-accel"
  | .invalid place issues => s!"{place}: {Issue.summary issues}"
  | .stated text => text

/-- What can go wrong with profiles. -/
inductive ProfileError where
  | unusable (architecture : Architecture) (why : Unusable)
  | duplicate (architecture : Architecture)
  | misconfigured (architecture : Architecture) (conflict : Conflict)
  | unknownArchitecture (name : String)
  | badDocument (cause : Toml.Error)
  | unwritable
  | unreadable (cause : Failure)
  | missing (path : Path)

namespace ProfileError

/-- The text of an error. -/
def message : ProfileError → String
  | .unusable a why => s!"no usable profile for {a.name}: {why.text}"
  | .duplicate a => s!"duplicate profile for {a.name}"
  | .misconfigured a conflict => s!"configuration error for {a.name}: {conflict.text}"
  | .unknownArchitecture name =>
    s!"unknown architecture '{name}' (expected x86_64, aarch64, or riscv64)"
  | .badDocument cause => s!"TOML parse error: {cause.message}"
  | .unwritable => "TOML serialization error: path contains invalid UTF-8 characters"
  | .unreadable cause => s!"I/O error: {cause.message}"
  | .missing path => s!"profile file not found: {path.display}"

/-- The text of what lies behind an error, if something does. -/
def source? : ProfileError → Option String
  | .badDocument cause => some cause.message
  | .unwritable => some "path contains invalid UTF-8 characters"
  | .unreadable cause => some cause.message
  | _ => none

end ProfileError

/-- The architecture with a name. -/
def Architecture.ofName (name : String) : Except ProfileError Architecture :=
  match Architecture.ofName? name with
  | some a => .ok a
  | none => .error (.unknownArchitecture name)

namespace Profile

/-- Refuses a network device that the firmware has no driver for. -/
def checkDevice (p : Profile) : Except ProfileError Unit :=
  if p.bootsFromNetwork then .ok ()
  else .error (.misconfigured p.architecture (.noDriver p.firmware.kind p.device))

/-- Refuses the help of a host of another architecture. -/
def checkHost (p : Profile) (host : Option Architecture) : Except ProfileError Unit :=
  match p.acceleration with
  | some mode =>
    if host = some p.architecture then .ok ()
    else .error (.misconfigured p.architecture (.foreignHost mode p.architecture host))
  | none => .ok ()

/-- Refuses a profile with errors; `place` says where they are. -/
def checkValid (p : Profile) (architecture : Architecture) (place : String) :
    Except ProfileError Unit :=
  if p.isValid then .ok ()
  else .error (.misconfigured architecture (.invalid place p.issues))

end Profile

end PxeLaunch

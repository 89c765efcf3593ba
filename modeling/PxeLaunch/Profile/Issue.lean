import PxeLaunch.Profile.Basic
import PxeLaunch.Regex.Pattern
import PxeLaunch.Text.Blank

/-!
What can be wrong with a profile. `Profile.issues` lists everything; a profile is valid if none of
it is an error, so that whoever launches a valid profile need not look at it again.
-/

set_option autoImplicit false

namespace PxeLaunch

/-- What the firmware lacks, in words. -/
def noDriverText (kind : FirmwareKind) (device : NetworkDevice) : String :=
  s!"firmware {kind.label} has no driver for network device {device.name}"

/-- How much an issue matters. -/
inductive Severity where
  | error
  | warning
  deriving Repr, DecidableEq

def Severity.name : Severity → String
  | .error => "error"
  | .warning => "warning"

/-- Something wrong with a profile. -/
inductive Issue where
  | emptyTarget
  | foreignTarget (target : String)
  | noMemory
  | noProcessors
  | noCpuModel
  | noDriver (architecture : Architecture) (kind : FirmwareKind) (device : NetworkDevice)
  | badPattern (pattern : String) (cause : Regex.PatternError)
  | selfMatching (replacement anchored : String)
  deriving Repr, DecidableEq

namespace Issue

/-- Only a target that is no firmware target may be left as it is. -/
def severity : Issue → Severity
  | .foreignTarget _ => .warning
  | _ => .error

/-- The text of an issue. -/
def message : Issue → String
  | .emptyTarget => "build-target is empty"
  | .foreignTarget target =>
    s!"build-target '{target}' is not a UEFI target; firmware will not be able to run it"
  | .noMemory => "memory-mb must be at least 1"
  | .noProcessors => "smp must be at least 1"
  | .noCpuModel => "aarch64 requires cpu-model (the virt machine has no default CPU)"
  | .noDriver a kind device => s!"configuration error for {a.name}: {noDriverText kind device}"
  | .badPattern pattern cause =>
    s!"noise pattern '{pattern}' is not a valid regular expression: {cause.message}"
  | .selfMatching replacement anchored =>
    s!"replacement '{replacement}' is itself matched by noise pattern '{anchored}'"

def isError (i : Issue) : Bool := i.severity = .error

/-- The errors among issues on one line. -/
def summary (issues : List Issue) : String :=
  "; ".intercalate ((issues.filter isError).map message)

end Issue

namespace Profile

/-- What is wrong with the target. -/
def targetIssues (p : Profile) : List Issue :=
  if Blank.isAllBlank p.buildTarget then [.emptyTarget]
  else if !"-uefi".toList.isSuffixOf p.buildTarget.toList then [.foreignTarget p.buildTarget]
  else []

/-- What is wrong with the machine. -/
def machineIssues (p : Profile) : List Issue :=
  (if p.memoryMb = 0 then [.noMemory] else []) ++
  (if p.processors = 0 then [.noProcessors] else []) ++
  (if p.architecture = .aarch64 && p.cpuModel.isNone then [.noCpuModel] else []) ++
  (if p.bootsFromNetwork then []
    else [.noDriver p.architecture p.firmware.kind p.device])

/-- A noise pattern compiled for text. -/
def compileNoise (p : NoisePattern) : Except Regex.PatternError Regex.Pattern :=
  Regex.Pattern.compile .text p.anchored

/-- The patterns that can be compiled. -/
def compiledNoise (ps : List NoisePattern) : List Regex.Pattern :=
  ps.filterMap fun p => (compileNoise p).toOption

/-- The patterns that cannot be compiled. -/
def patternIssues (ps : List NoisePattern) : List Issue :=
  ps.filterMap fun p => match compileNoise p with
    | .ok _ => none
    | .error cause => some (.badPattern p.pattern cause)

/-- The replacements that some pattern would take for noise again. -/
def replacementIssues (ps : List NoisePattern) : List Issue :=
  let compiled := compiledNoise ps
  ps.filterMap fun p =>
    (compiled.find? fun c => c.isMatch (Bytes.ofString p.replacement)).map fun c =>
      .selfMatching p.replacement c.source

/-- Everything wrong with a profile, in the order of its fields. -/
def issues (p : Profile) : List Issue :=
  p.targetIssues ++ p.machineIssues ++ patternIssues p.noise ++ replacementIssues p.noise

/-- Warnings alone leave a profile valid. -/
def isValid (p : Profile) : Bool := !p.issues.any Issue.isError

end Profile

end PxeLaunch

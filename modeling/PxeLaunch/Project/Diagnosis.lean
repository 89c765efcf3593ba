import PxeLaunch.Project.Basic
import PxeLaunch.Text.Lines

/-!
What a project needs and whether it is there: the toolchain, and for each architecture the emulator,
the firmware image and a host that can help. Tools are asked for their version, so that one that
cannot be started is noticed.
-/

set_option autoImplicit false

namespace PxeLaunch.Project

/-- The version of the program. -/
def version : String := "0.1.0"

/-- The first line of a text, if it has one. A return before the newline is not part of it. -/
def firstLine? (text : String) : Option String :=
  let cs := text.toList
  let line := cs.takeWhile (· != '\n')
  if cs.isEmpty then none
  else if line.length < cs.length && line.getLast? = some '\r' then
    some (String.ofList line.dropLast)
  else some (String.ofList line)

/-- The command that asks a tool for its version. -/
def versionCommand (program : Path) : Command := ⟨program, [.ofString "--version"], none, []⟩

/-- What a tool says of its version. The files may be others afterwards. -/
def toolRow (host : Host) (files : Files) (program : Path) : Files × String :=
  match host.execute files (versionCommand program) with
  | .ok run =>
    let line := (firstLine? (Utf8.decodeLossy (run.written .stdout))).getD "(unknown version)"
    (run.files, s!"  {program.display}: {line}")
  | .error _ => (files, s!"  {program.display}: not found")

/-- What is said first. -/
def opening (host : Host) (project : Project) : List String :=
  ["=== netboot doctor ===", "", s!"netboot version: {version}",
   "Host architecture: " ++ (host.architecture.map Architecture.name).getD "unknown (no profile)",
   "", "--- Project ---"] ++
  (match project.manifest with
    | some m =>
      [s!"  {Manifest.fileName}: found at {project.dir.display}", s!"  Project: {m.projectName}"]
    | none => [s!"  {Manifest.fileName}: not found (using defaults)"]) ++
  [""]

/-- What is said of the firmware image. -/
def firmwareRow (files : Files) (project : Project) (p : Profile) : String :=
  match p.firmwarePath project.dir with
  | some path =>
    if files.isFile path then s!"  firmware: {path.display}"
    else s!"  firmware: missing ({path.display})"
  | none => "  firmware: emulator default"

/-- What is said of the host, if it cannot help. -/
def hostRows (host : Host) (p : Profile) : List String :=
  match p.checkHost host.architecture with
  | .ok () => []
  | .error cause => [s!"  acceleration: {cause.message}"]

/-- What is said of an architecture. -/
def architectureRows (host : Host) (files : Files) (project : Project) (r : Registry)
    (a : Architecture) : Files × List String :=
  let title := s!"--- {a.name} ---"
  match r.get? a with
  | none => (files, [title, "  profile: not registered"])
  | some p =>
    match r.resolve a with
    | .error cause => (files, [title, s!"  profile: {cause.message}", ""])
    | .ok _ =>
      let emulator := (project.emulatorProgram a).getD (.ofString a.emulatorProgram)
      let (files, tool) := toolRow host files emulator
      let artifact := project.toolchain.artifactPath p
      (files, [title, tool, firmwareRow files project p] ++ hostRows host p ++
        [s!"  artifact: {artifact.display}", ""])

/-- What is said of architectures, one after another. -/
def sections (host : Host) (files : Files) (project : Project) (r : Registry) :
    List Architecture → Files × List String
  | [] => (files, [])
  | a :: rest =>
    let (files, rows) := architectureRows host files project r a
    let (files, others) := sections host files project r rest
    (files, rows ++ others)

/-- The files after a diagnosis, what it says, and what kept it from going on. -/
structure Diagnosis where
  files : Files
  text : String
  result : Except ProjectError Unit

/-- Looks over a project, for one architecture or for all of them. -/
def diagnose (host : Host) (files : Files) (project : Project) (only : Option Architecture) :
    Diagnosis :=
  let toolchain := project.toolchain
  let (files, tool) := toolRow host files toolchain.program
  let head := opening host project ++
    ["--- Toolchain ---", tool, s!"  Output root: {toolchain.resolvedOutputRoot.display}", ""]
  match project.registry files with
  | .error e => ⟨files, Lines.ofList head, .error e⟩
  | .ok r =>
    let selected := (only.map ([·])).getD Architecture.all
    let (files, rows) := sections host files project r selected
    ⟨files, Lines.ofList (head ++ rows), .ok ()⟩

end PxeLaunch.Project

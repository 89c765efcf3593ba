import PxeLaunch.Launch.Lifecycle
import PxeLaunch.Profile.Folder
import PxeLaunch.Project.Manifest

/-!
Projects. A project is a folder with a manifest, found from any folder inside it; a folder without
one is a project with the usual settings. The profiles of a project are its own and the builtin ones
with the changes of the manifest, and all of them are valid.
-/

set_option autoImplicit false

namespace PxeLaunch

/-- A folder and its manifest, if it has one. -/
structure Project where
  dir : Path
  manifest : Option Manifest

namespace Project

/-- The manifest at a path. -/
def readManifest (files : Files) (path : Path) : Except ProjectError Manifest := do
  let text ← ProjectError.ofSystem s!"reading {path.display}" (files.readText path)
  (Manifest.ofToml text).mapError fun e =>
    .during s!"parsing {path.display}" (.ofCause (.manifest e))

/-- The first of the folders that has a manifest. One that cannot be used is not passed over. -/
def findIn (files : Files) : List Path → Except ProjectError (Option Project)
  | [] => .ok none
  | dir :: rest =>
    let path := dir.joinText Manifest.fileName
    if files.isFile path then do
      return some ⟨dir, some (← readManifest files path)⟩
    else findIn files rest

/-- The project that a folder is in, or the folder itself. -/
def discover (files : Files) (start : Path) : Except ProjectError Project := do
  return (← findIn files start.ancestors).getD ⟨start, none⟩

/-- The profiles with the changes under one name of the manifest. -/
def applyOverride (r : Registry) (name : String) (o : Override) : Except ProjectError Registry := do
  let a ← (ProjectError.ofProfile (Architecture.ofName name)).mapError
    (.during s!"{Manifest.fileName}: [profiles.{name}]")
  match r.get? a with
  | none => return r
  | some p => do
    let changed ← o.apply p
    ProjectError.ofProfile
      (changed.checkValid a s!"{Manifest.fileName} [profiles.{name}]")
    return r.put a changed

/-- The profiles with all changes of the manifest, one after another. -/
def applyOverrides (r : Registry) : List (String × Override) → Except ProjectError Registry
  | [] => .ok r
  | (name, o) :: rest => do applyOverrides (← applyOverride r name o) rest

/-- The profiles of a project. -/
def registry (files : Files) (project : Project) : Except ProjectError Registry := do
  let r ← (ProjectError.ofProfile (Profile.loadRegistry files project.dir)).mapError
    (.during s!"loading profiles from {project.dir.display}")
  match project.manifest with
  | some m => applyOverrides r m.overrides
  | none => return r

/-- A profile as the command line asks for it. -/
def adjust (release withoutAcceleration : Bool) (p : Profile) : Profile :=
  let p := if release then p.withBuildMode .release else p
  if withoutAcceleration then p.withoutAcceleration else p

/-- The profile to launch an architecture with. -/
def profile (files : Files) (project : Project) (a : Architecture)
    (release withoutAcceleration : Bool) : Except ProjectError Profile := do
  let r ← project.registry files
  let p ← ProjectError.ofProfile (r.resolve a)
  return adjust release withoutAcceleration p

/-- The toolchain of a project. -/
def toolchain (project : Project) : Toolchain :=
  let usual := Toolchain.default project.dir
  match project.manifest.map Manifest.toolchain with
  | none => usual
  | some c =>
    { usual with
      program := c.program.getD usual.program
      artifact := c.artifact.getD usual.artifact
      outputRoot := c.outputRoot.getD usual.outputRoot
      package := c.package
      extraArgs := c.extraArgs }

/-- The emulator that the manifest names for an architecture, by the name of the architecture. -/
def emulatorProgram (project : Project) (a : Architecture) : Option Path :=
  project.manifest.bind fun m => m.programs.lookup a.name

/-- The settings to launch an architecture with. -/
def launchSettings (project : Project) (a : Architecture) : Launch.Settings :=
  { Launch.Settings.default project.toolchain with
    emulatorProgram := project.emulatorProgram a }

end Project

end PxeLaunch

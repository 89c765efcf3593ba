import PxeLaunch.Host.Process
import PxeLaunch.Launch.Error

/-!
Building the image. The toolchain is started in the folder of the project and has to leave the image
where the profile says; the folder for its output is named to it by a path that means the same there
as here if the folder of the project is absolute.
-/

set_option autoImplicit false

namespace PxeLaunch

/-- The program that builds images, with its settings. -/
structure Toolchain where
  projectDir : Path
  program : Path
  package : Option String
  artifact : String
  outputRoot : Path
  extraArgs : List String
  deriving DecidableEq

/-- What comes of a build: the files after it, what it showed, and the image or the error. -/
structure Built where
  files : Files
  stdout : Bytes
  stderr : Bytes
  result : Except LaunchError Path

namespace Toolchain

/-- The settings of a project that has none. -/
def default (projectDir : Path) : Toolchain where
  projectDir := projectDir
  program := .ofString "cargo"
  package := none
  artifact := "bootloader.efi"
  outputRoot := .ofString "target"
  extraArgs := []

/-- The folder for output; a relative path is taken from the folder of the project. -/
def resolvedOutputRoot (t : Toolchain) : Path := t.projectDir.join t.outputRoot

/-- Where a build leaves its image. -/
def artifactPath (t : Toolchain) (p : Profile) : Path :=
  p.artifactPath t.resolvedOutputRoot t.artifact

/-- The arguments of a build. -/
def args (t : Toolchain) (p : Profile) : List Bytes :=
  [.ofString "build", .ofString "--target", .ofString p.buildTarget, .ofString "--target-dir",
    t.resolvedOutputRoot.bytes] ++
  (if p.buildMode = .release then [Bytes.ofString "--release"] else []) ++
  (match t.package with
    | some name => [Bytes.ofString "-p", Bytes.ofString name]
    | none => []) ++
  t.extraArgs.map Bytes.ofString

/-- The command that builds. -/
def command (t : Toolchain) (p : Profile) : Command where
  program := t.program
  args := t.args p
  directory := some t.projectDir
  stdin := []

/-- The image if the toolchain was content, and its complaint otherwise. -/
def verdict (t : Toolchain) (p : Profile) (status : ExitStatus) (stderr : String) :
    Except LaunchError Path :=
  match status with
  | .exited 0 => .ok (t.artifactPath p)
  | .exited code => .error (.buildFailed p.architecture (some code) stderr)
  | .killed _ => .error (.buildFailed p.architecture none stderr)

/-- Runs a build to its end. Its output is passed on, and so are its complaints. -/
def build (host : Host) (files : Files) (t : Toolchain) (p : Profile) : Built :=
  match host.execute files (t.command p) with
  | .error cause =>
    let text := s!"failed to run {t.program.display}: {cause.message}"
    ⟨files, [], [], .error (.buildFailed p.architecture none text)⟩
  | .ok run =>
    let stderr := Utf8.decodeLossy (run.written .stderr)
    ⟨run.files, run.written .stdout, .ofString stderr, t.verdict p run.status stderr⟩

end Toolchain

end PxeLaunch

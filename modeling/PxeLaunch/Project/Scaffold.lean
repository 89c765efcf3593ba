import PxeLaunch.Project.Basic
import PxeLaunch.Text.Lines

/-!
Starting a project: a folder with a manifest, the folders that a project uses, and a list of what
version control is to leave out. A folder that is there is never touched.
-/

set_option autoImplicit false

namespace PxeLaunch.Project

/-- A step of starting a project. -/
inductive Step where
  | folders (path : Path)
  | file (path : Path) (content : Bytes)

/-- Takes a step. What was made before a failure stays. -/
def Step.take (files : Files) : Step → Files × Except Failure Unit
  | .folders path => files.makeFolders path
  | .file path content =>
    match files.write path content with
    | .ok after => (after, .ok ())
    | .error e => (files, .error e)

/-- Takes steps, each of which is called by what it does, up to the first that fails. -/
def takeSteps (files : Files) : List (String × Step) → Files × Except ProjectError Unit
  | [] => (files, .ok ())
  | (activity, step) :: rest =>
    match step.take files with
    | (after, .ok ()) => takeSteps after rest
    | (after, .error e) => (after, ProjectError.ofSystem activity (.error e))

/-- What version control leaves out. -/
def ignored : String := "target/\n"

/-- The steps that start a project in a folder. -/
def startingSteps (dir : Path) (name : String) : List (String × Step) :=
  [("creating profiles/ directory", .folders (dir.joinText Profile.folderName)),
   ("creating firmware/ directory", .folders (dir.joinText "firmware")),
   (s!"writing {Manifest.fileName}",
    .file (dir.joinText Manifest.fileName) (.ofString (Manifest.template name))),
   ("writing .gitignore", .file (dir.joinText ".gitignore") (.ofString ignored))]

/-- Starts a project in the folder with its name, which must not be there. -/
def create (files : Files) (name : String) : Files × Except ProjectError Unit :=
  let dir := Path.ofString name
  if files.contains dir then (files, .error (.plain s!"directory '{dir.display}' already exists"))
  else takeSteps files (startingSteps dir name)

/-- What the user is told about a project that has been started. -/
def created (name : String) : String :=
  Lines.ofList [
    s!"Created project '{name}'",
    s!"  {name}/{Manifest.fileName}",
    s!"  {name}/profiles/",
    s!"  {name}/firmware/",
    s!"  {name}/.gitignore",
    "",
    "Put OVMF.fd (x86_64) and QEMU_EFI.fd (aarch64) in firmware/."]

end PxeLaunch.Project

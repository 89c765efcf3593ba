import PxeLaunch.Host.Files
import PxeLaunch.Profile.Document
import PxeLaunch.Profile.Registry

/-!
The folder with a project's own profiles. Every file in it whose name ends in the right way holds
one profile, which takes the place of the builtin one. The files are read in the order of their
names, so the order in which the system lists them does not matter.
-/

set_option autoImplicit false

namespace PxeLaunch.Profile

/-- The name of the folder, in the folder of the project. -/
def folderName : String := "profiles"

/-- The end of the names of the files that count. -/
def fileSuffix : String := ".profile.toml"

/-- A file with a profile. Its name is without the suffix. -/
structure Source where
  name : String
  path : Path
  deriving Repr, DecidableEq

/-- The file that a name in the folder stands for, if it counts. -/
def Source.ofName? (folder : Path) (name : Bytes) : Option Source := do
  let text ← Utf8.decode? name
  let suffix := fileSuffix.toList
  if suffix.isSuffixOf text.toList then
    some ⟨String.ofList (text.toList.take (text.toList.length - suffix.length)), folder.join ⟨name⟩⟩
  else none

/-- Whether one name does not come after another. -/
def Source.le (a b : Source) : Bool := !(Bytes.ofString b.name).before (Bytes.ofString a.name)

/-- The files that count among the names in a folder, in order. -/
def sourcesOf (folder : Path) (names : List Bytes) : List Source :=
  (names.filterMap (Source.ofName? folder)).mergeSort Source.le

/-- The files with a project's own profiles. -/
def sources (files : Files) (projectDir : Path) : Except ProfileError (List Source) :=
  let folder := projectDir.joinText folderName
  if files.isFolder folder then
    ((files.list folder).map (sourcesOf folder)).mapError .unreadable
  else .ok []

/-- The profile in a file. -/
def load (files : Files) (path : Path) : Except ProfileError Profile :=
  if files.contains path then
    match files.readText path with
    | .ok text => ofToml text
    | .error cause => .error (.unreadable cause)
  else .error (.missing path)

/-- Adds the profile in a file, which has to be valid. -/
def addSource (files : Files) (r : Registry) (s : Source) : Except ProfileError Registry := do
  let p ← load files s.path
  p.checkValid p.architecture s!"{folderName}/{s.name}{fileSuffix}"
  r.register p

/-- Adds the profiles in files, one after another. -/
def addSources (files : Files) (r : Registry) : List Source → Except ProfileError Registry
  | [] => .ok r
  | s :: rest => do addSources files (← addSource files r s) rest

/-- The profiles of a project: its own ones, and the builtin ones for the other architectures. -/
def loadRegistry (files : Files) (projectDir : Path) : Except ProfileError Registry := do
  let r ← addSources files .empty (← sources files projectDir)
  return r.fillBuiltins

end PxeLaunch.Profile

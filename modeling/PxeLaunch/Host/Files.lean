import PxeLaunch.Host.Failure
import PxeLaunch.Path

/-!
A tree of files. The tree is kept flat: every file and every folder stands under its key, the names
on the way to it from the root. Paths are followed name by name, so that two dots lead to the folder
above and a name after a file fails.
-/

set_option autoImplicit false

namespace PxeLaunch

/-- The names on the way from the root. -/
abbrev Key := List Bytes

/-- What can be done with a file: whether it can be run, and the failure that comes of opening it,
if it cannot be opened. -/
structure Access where
  executable : Bool
  barred : Option Failure
  deriving Repr, DecidableEq

/-- A file can be opened unless something else is said. -/
instance : Coe Bool Access := ⟨fun executable => ⟨executable, none⟩⟩

/-- What can stand under a key. -/
inductive Entry where
  | folder
  | file (content : Bytes) (access : Access)
  deriving Repr, DecidableEq

/-- The files of a host, and the folder that relative paths start from. -/
structure Files where
  entries : List (Key × Entry)
  here : Key

namespace Files

/-- What stands under a key. The root is always there. -/
def entry? (f : Files) (key : Key) : Option Entry :=
  if key.isEmpty then some .folder else f.entries.lookup key

/-- The tree with something else under a key. -/
def put (f : Files) (key : Key) (e : Entry) : Files :=
  { f with entries := (key, e) :: f.entries.filter (·.1 != key) }

/-- The longest name and the longest path that the system takes. -/
def maxName : Nat := 255

def maxPath : Nat := 4095

/-- Follows the parts of a path from a folder. All but the last must lead to folders. -/
def walk (f : Files) (key : Key) : List Bytes → Except Failure Key
  | [] => .ok key
  | part :: rest =>
    if Path.isIgnored part then walk f key rest
    else if part == [Path.dot, Path.dot] then walk f key.dropLast rest
    else if maxName < part.length then .error .nameTooLong
    else if rest.isEmpty then .ok (key ++ [part])
    else match f.entry? (key ++ [part]) with
      | some .folder => walk f (key ++ [part]) rest
      | some (.file _ _) => .error .notDirectory
      | none => .error .notFound

/-- The key that a path leads to, whether or not something stands there. -/
def locate (f : Files) (p : Path) : Except Failure Key :=
  if p.bytes.contains 0 then .error .zeroInName
  else if p.bytes.isEmpty then .error .notFound
  else if maxPath < p.bytes.length then .error .nameTooLong
  else f.walk (if p.isAbsolute then [] else f.here) (Path.split p.bytes)

/-- What a path leads to. -/
def get (f : Files) (p : Path) : Except Failure Entry := do
  match f.entry? (← f.locate p) with
  | some e => .ok e
  | none => .error .notFound

/-- Whether a path leads to something. -/
def contains (f : Files) (p : Path) : Bool := (f.get p).isOk

def isFile (f : Files) (p : Path) : Bool :=
  match f.get p with
  | .ok (.file _ _) => true
  | _ => false

def isFolder (f : Files) (p : Path) : Bool :=
  match f.get p with
  | .ok .folder => true
  | _ => false

/-- The content of a file. -/
def read (f : Files) (p : Path) : Except Failure Bytes := do
  match ← f.get p with
  | .file content ⟨_, none⟩ => .ok content
  | .file _ ⟨_, some cause⟩ => .error cause
  | .folder => .error .isDirectory

/-- The content of a file as text. -/
def readText (f : Files) (p : Path) : Except Failure String := do
  match Utf8.decode? (← f.read p) with
  | some text => .ok text
  | none => .error .notText

/-- Writes a file, which is made if it is not there. -/
def write (f : Files) (p : Path) (content : Bytes) : Except Failure Files := do
  let key ← f.locate p
  match f.entry? key with
  | some .folder => .error .isDirectory
  | some (.file _ ⟨executable, none⟩) => .ok (f.put key (.file content executable))
  | some (.file _ ⟨_, some cause⟩) => .error cause
  | none => .ok (f.put key (.file content false))

/-- The names in a folder. -/
def names (f : Files) (key : Key) : List Bytes :=
  f.entries.filterMap fun (k, _) => if k.dropLast == key then k.getLast? else none

/-- The names in the folder that a path leads to. -/
def list (f : Files) (p : Path) : Except Failure (List Bytes) := do
  match ← f.get p with
  | .folder => return f.names (← f.locate p)
  | .file _ _ => .error .notDirectory

/-- Makes one folder, in a folder that is there. -/
def makeFolder (f : Files) (p : Path) : Except Failure Files := do
  let key ← f.locate ⟨(p.bytes.reverse.dropWhile (· == Bytes.slash)).reverse⟩
  match f.entry? key with
  | some _ => .error .alreadyThere
  | none => .ok (f.put key .folder)

/-- Makes the first of the folders, of which each is in the next one. A folder that could not be
made because the one around it is missing is tried again after that one has been made. What was made
before a failure stays. -/
def makeFoldersFrom (f : Files) : List Path → Files × Except Failure Unit
  | [] => (f, .error (.stated "failed to create whole tree"))
  | p :: around =>
    if p.bytes.isEmpty then (f, .ok ())
    else match f.makeFolder p with
      | .ok g => (g, .ok ())
      | .error .notFound =>
        match makeFoldersFrom f around with
        | (g, .error e) => (g, .error e)
        | (g, .ok ()) =>
          match g.makeFolder p with
          | .ok h => (h, .ok ())
          | .error e => (g, if g.isFolder p then .ok () else .error e)
      | .error e => (f, if f.isFolder p then .ok () else .error e)

/-- Makes a folder and all that are missing around it. -/
def makeFolders (f : Files) (p : Path) : Files × Except Failure Unit :=
  f.makeFoldersFrom p.ancestors

/-- The same files, seen from another folder. -/
def enter (f : Files) (p : Path) : Except Failure Files := do
  match ← f.get p with
  | .folder => return { f with here := ← f.locate p }
  | .file _ _ => .error .notDirectory

end Files

end PxeLaunch

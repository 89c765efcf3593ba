import PxeLaunch.Request.Answer
import PxeLaunch.Script.Run

/-!
The command line. The folder of the project is read into a tree of files, the command line is obeyed
on that tree, and what it changed is written back.
-/

set_option autoImplicit false

namespace PxeLaunch.Main

/-- The bytes of a file's content. -/
def bytesOf (content : ByteArray) : Bytes := content.toList

/-- The content that bytes make up. -/
def contentOf (bytes : Bytes) : ByteArray := ⟨bytes.toArray⟩

/-- A file as the tree holds it. Scripts are taken to be executable. -/
def fileOf (content : ByteArray) : Entry :=
  let bytes := bytesOf content
  .file bytes ((Bytes.ofString "#!").isPrefixOf bytes)

/-- Adds a file or a folder with all that is in it. A file that cannot be read is there all the
same. -/
partial def addEntry (files : Files) (key : Key) (e : IO.FS.DirEntry) : IO Files := do
  let rec addAll (files : Files) : List IO.FS.DirEntry → IO Files
    | [] => return files
    | inner :: rest => do
      addAll (← addEntry files (key ++ [Bytes.ofString inner.fileName]) inner) rest
  try
    if ← e.path.isDir then
      addAll (files.put key .folder) (← e.path.readDir).toList
    else return files.put key (fileOf (← IO.FS.readBinFile e.path))
  catch cause => return files.put key (.file [] ⟨false, some (.stated (toString cause))⟩)

/-- The folder of the project around a folder, or the folder itself. -/
def projectFolder (start : Path) : List Path → IO Path
  | [] => return start
  | dir :: rest => do
    let found ← try
        let _ ← IO.FS.readBinFile (dir.joinText Manifest.fileName).display
        pure true
      catch _ => pure false
    if found then return dir else projectFolder start rest

/-- The names on the way to an absolute path. -/
def keyOf (p : Path) : Key := (Path.split p.bytes).filter (!Path.isIgnored ·)

/-- The folders on the way to a key, the key itself among them. -/
def folders (key : Key) : List (Key × Entry) :=
  (List.range key.length).map fun n => (key.take (n + 1), .folder)

/-- A key as an absolute path. -/
def pathOf (key : Key) : String := Utf8.decodeLossy (key.flatMap (Bytes.slash :: ·))

/-- Writes what is new among some files. -/
def writeBack (old : Files) : List (Key × Entry) → IO Unit
  | [] => return
  | (key, e) :: rest => do
    if old.entry? key != some e then
      match e with
      | .folder => IO.FS.createDirAll (pathOf key)
      | .file content _ => IO.FS.writeBinFile (pathOf key) (contentOf content)
    writeBack old rest

/-- Reads a stream to its end. -/
partial def readAll (stream : IO.FS.Stream) (found : ByteArray) : IO ByteArray := do
  let more ← stream.read 65536
  if more.isEmpty then return found else readAll stream (found ++ more)

/-- The standard input, if the command line is about it. -/
def inputFor (args : List Bytes) : IO Bytes := do
  match Arguments.read args with
  | .request (.filter _) => return bytesOf (← readAll (← IO.getStdin) .empty)
  | _ => return []

end PxeLaunch.Main

open PxeLaunch PxeLaunch.Main in
/-- Obeys a command line. -/
def main (args : List String) : IO UInt32 := do
  let args := args.map Bytes.ofString
  let dir := Path.ofString (toString (← IO.currentDir))
  let top ← projectFolder dir dir.ancestors
  let empty : Files := ⟨folders (keyOf dir), keyOf dir⟩
  let files ← addEntry empty (keyOf top) ⟨top.display, ""⟩
  let session : Session := ⟨.ofScripts (some .x86_64), files, dir, ← inputFor args⟩
  let left := session.obey args
  writeBack files left.files.entries.reverse
  (← IO.getStdout).write (contentOf left.stdout)
  (← IO.getStderr).write (contentOf left.stderr)
  return (left.code % 256).toNat.toUInt32

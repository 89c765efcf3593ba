import PxeLaunch.Script.Options

/-!
The inputs of utilities: files that are named by operands, and what a descriptor leads to.
-/

set_option autoImplicit false

namespace PxeLaunch.Script

/-- An input: the name that it was given by, and its characters. -/
structure Input where
  name : Chars
  content : Chars

/-- How a utility speaks of inputs that cannot be read. -/
structure Refusals where
  name : String
  lead : Chars → Chars
  folder : Chars → Chars
  status : Nat

/-- The name of the input as it is, and the reason. -/
def Refusals.plain (name : String) (status : Nat) : Refusals where
  name := name
  lead p := p
  folder p := p
  status := status

/-- The name of the input, in quotes if it needs them, and the reason. -/
def Refusals.quoting (name : String) (status : Nat) : Refusals where
  name := name
  lead := nameInErrors
  folder := nameInErrors
  status := status

/-- Names of files that lead to no file. -/
inductive Device where
  | nothing
  | zeros
  | descriptor (n : Nat)

def device? (path : Chars) : Option Device :=
  match String.ofList path with
  | "/dev/null" => some .nothing
  | "/dev/tty" => some .nothing
  | "/dev/zero" => some .zeros
  | "/dev/stdin" => some (.descriptor 0)
  | "/dev/stdout" => some (.descriptor 1)
  | "/dev/stderr" => some (.descriptor 2)
  | _ =>
    match path.drop "/dev/fd/".length with
    | [c] =>
      if path.take "/dev/fd/".length = "/dev/fd/".toList && c.isDigit then
        some (.descriptor (c.toNat - '0'.toNat))
      else none
    | _ => none

namespace Shell

/-- All characters that are left of the input. -/
def readStdin (s : Shell) : Chars × Shell :=
  let (bytes, s) := s.drain 0
  (Chars.ofBytes bytes, s)

/-- Whether the input is a file, which it is not if it comes from another command. -/
def readsFile (s : Shell) : Bool :=
  match s.stream? 0 with
  | some (.file _ _ _) => true
  | _ => false

/-- The folder that a descriptor leads to. -/
def readsFolder (s : Shell) : Bool :=
  match s.stream? 0 with
  | some (.file key _ _) => s.files.entry? key = some .folder
  | _ => false

/-- The characters of a file. -/
def readFile (s : Shell) (path : Chars) : Except Failure (Chars × Shell) :=
  match device? path with
  | some (.descriptor n) =>
    let (bytes, s) := s.drain n
    .ok (Chars.ofBytes bytes, s)
  | some _ => .ok ([], s)
  | none => do return (Chars.ofBytes (← s.files.read (pathOf path)), s)

/-- Gives a file a content. -/
def writeFile (s : Shell) (path content : Chars) : Except Failure Shell :=
  match device? path with
  | some (.descriptor n) => .ok (s.write n content)
  | some _ => .ok s
  | none => do return { s with files := ← s.files.write (pathOf path) content.toBytes }

/-- The inputs that operands name, of which a hyphen is that of the script; so is what is meant if
there are none. Those that cannot be read are complained about, and so the status is known. -/
def inputs (s : Shell) (r : Refusals) (paths : List Chars) : List Input × Shell :=
  let paths := if paths.isEmpty then [['-']] else paths
  paths.foldl (fun (found, s) p =>
    if p = ['-'] then
      if s.readsFolder then
        (found, blame r.name (r.folder p ++ ": Is a directory".toList) r.status s)
      else
        let (content, s) := s.readStdin
        (found ++ [⟨p, content⟩], s)
    else match s.readFile p with
      | .ok (content, s) => (found ++ [⟨p, content⟩], s)
      | .error .isDirectory =>
        (found, blame r.name (r.folder p ++ ": Is a directory".toList) r.status s)
      | .error e =>
        (found, blame r.name (r.lead p ++ ": ".toList ++ reason e) r.status s))
    ([], s.answer 0)

/-- Shows a text and leaves the status as it is. -/
def put (s : Shell) (cs : Chars) : Shell := s.write 1 cs

end Shell

/-- The lines of a text, each with its newline if it has one. -/
def linesFrom (line : Chars) : Chars → List Chars
  | [] => if line.isEmpty then [] else [line.reverse]
  | c :: rest =>
    if c = '\n' then (c :: line).reverse :: linesFrom [] rest else linesFrom (c :: line) rest

def linesOf (cs : Chars) : List Chars := linesFrom [] cs

/-- A line without its newline. -/
def chomped (line : Chars) : Chars := if line.getLast? = some '\n' then line.dropLast else line

/-- The lines of a text without their newlines. -/
def bareLines (cs : Chars) : List Chars := (linesOf cs).map chomped

/-- Lines as a text, each with a newline. -/
def unlines (lines : List Chars) : Chars := lines.flatMap (· ++ ['\n'])

/-- A utility that makes one text of another. -/
def filterText (name : String) (paths : List Chars) (f : Chars → Chars) (s : Shell) : Shell :=
  let (inputs, s) := s.inputs (.quoting name 1) paths
  s.put (f (inputs.flatMap (·.content)))

/-- A text in a column, at its right end. -/
def alignRight (width : Nat) (cs : Chars) : Chars :=
  List.replicate (width - cs.length) ' ' ++ cs

def alignLeft (width : Nat) (cs : Chars) : Chars :=
  cs ++ List.replicate (width - cs.length) ' '

/-- A number with a unit like those of sizes. -/
def sizeOf? (cs : Chars) : Option Nat :=
  let digits := cs.takeWhile Char.isDigit
  if digits.isEmpty then none
  else
    let n := natOf 10 digits
    match String.ofList (cs.drop digits.length) with
    | "" => some n
    | "b" => some (n * 512)
    | "k" => some (n * 1024)
    | "K" => some (n * 1024)
    | "KiB" => some (n * 1024)
    | "kB" => some (n * 1000)
    | "KB" => some (n * 1000)
    | "M" => some (n * 1024 * 1024)
    | "MiB" => some (n * 1024 * 1024)
    | "MB" => some (n * 1000 * 1000)
    | "G" => some (n * 1024 * 1024 * 1024)
    | "GB" => some (n * 1000 * 1000 * 1000)
    | _ => none

end PxeLaunch.Script

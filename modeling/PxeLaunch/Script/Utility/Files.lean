import PxeLaunch.Script.Format
import PxeLaunch.Script.Utility.Condition

/-!
Utilities that make, move and remove files and folders, and that say something about them or about
their names.
-/

set_option autoImplicit false

namespace PxeLaunch.Script

/-! ### Trees of files -/

/-- The files without what stands under a key or below it. -/
def withoutTree (files : Files) (key : Key) : Files :=
  { files with entries := files.entries.filter fun (k, _) => !key.isPrefixOf k }

/-- The files with a copy of what stands under a key and below it. -/
def withCopy (files : Files) (source target : Key) : Files :=
  let copied := files.entries.filterMap fun (k, e) =>
    if source.isPrefixOf k then some (target ++ k.drop source.length, e) else none
  copied.foldr (fun (k, e) files => files.put k e) files

/-- Does something to operands one after another, and complains about those that it fails for. -/
def forOperands (f : Chars → Shell → Except Chars Shell) (name : String) (operands : List Chars)
    (s : Shell) : Shell :=
  operands.foldl (fun s p => match f p s with
    | .ok s => s
    | .error text => blame name text 1 s) (s.answer 0)

/-- Complains that there are no files among the operands. -/
def missingFile (name : String) (s : Shell) : Shell :=
  pointToHelp name 1 (blame name "missing file operand".toList 1 s)

/-! ### Folders -/

/-- The paths of the folders around a folder, and its own, the outermost first. -/
def leadingPaths (path : Chars) : List Chars :=
  let parts := path.splitOn '/'
  let paths := (List.range parts.length).map fun i => ['/'].intercalate (parts.take (i + 1))
  (paths.zip parts).filterMap fun (p, part) => if part.isEmpty then none else some p

def makeFolders : Utility :=
  withOptions "mkdir" ⟨"pvZ", "m", [("parents", 'p'), ("verbose", 'v'), ("mode", 'm')], true⟩ 1
    fun g s =>
    if g.operands.isEmpty then missingOperand "mkdir" 1 s
    else
      let made (p : Chars) (s : Shell) : Shell :=
        if g.has 'v' then s.put ("mkdir: created directory ".toList ++ quotedName p ++ ['\n'])
        else s
      let make (p : Chars) (s : Shell) : Except Chars Shell :=
        match s.files.makeFolder (Shell.pathOf p) with
        | .ok files => .ok (made p { s with files := files })
        | .error e => .error
          ("cannot create directory ".toList ++ quotedName p ++ ": ".toList ++ Shell.reason e)
      let makeDeep (p : Chars) (s : Shell) : Except Chars Shell :=
        (leadingPaths p).foldlM (fun s q =>
          if s.files.isFolder (Shell.pathOf q) then .ok s
          else match make q s with
            | .ok s => .ok s
            | .error text =>
              if s.files.isFile (Shell.pathOf q) && q != p then
                .error ("cannot create directory ".toList ++ quotedName q ++
                  ": Not a directory".toList)
              else .error text) s
      forOperands (if g.has 'p' then makeDeep else make) "mkdir" g.operands s

/-- Removes a folder that has nothing in it. -/
def removeFolder (p : Chars) (s : Shell) : Except Failure Shell := do
  let key ← s.files.locate (Shell.pathOf p)
  match ← s.files.get (Shell.pathOf p) with
  | .file _ _ => .error .notDirectory
  | .folder =>
    if (s.files.names key).isEmpty then .ok { s with files := withoutTree s.files key }
    else .error (.stated "Directory not empty")

def removeFolders : Utility :=
  withOptions "rmdir" ⟨"pv", "", [("parents", 'p'), ("ignore-fail-on-non-empty", 'i')], true⟩ 1
    fun g s =>
    if g.operands.isEmpty then missingOperand "rmdir" 1 s
    else
      let remove (p : Chars) (s : Shell) : Except Chars Shell :=
        let paths := if g.has 'p' then (leadingPaths p).reverse else [p]
        let what (q : Chars) : Chars :=
          (if q = p then "failed to remove " else "failed to remove directory ").toList ++
            quotedName q
        paths.foldlM (fun s q => match removeFolder q s with
          | .ok s => .ok s
          | .error e => .error (what q ++ ": ".toList ++ Shell.reason e)) s
      forOperands remove "rmdir" g.operands s

/-! ### Making and removing files -/

def touchFiles : Utility :=
  withOptions "touch" ⟨"acmfh", "dtr", [("no-create", 'c'), ("date", 'd'), ("reference", 'r')],
    true⟩ 1 fun g s =>
    if g.operands.isEmpty then missingFile "touch" s
    else
      let touch (p : Chars) (s : Shell) : Except Chars Shell :=
        if g.has 'c' || (s.find? p).isSome then .ok s
        else match s.files.write (Shell.pathOf p) [] with
          | .ok files => .ok { s with files := files }
          | .error e => .error
            ("cannot touch ".toList ++ quotedName p ++ ": ".toList ++ Shell.reason e)
      forOperands touch "touch" g.operands s

/-- The last part of a path. -/
def lastPart (p : Chars) : Chars :=
  ((p.reverse.dropWhile (· = '/')).takeWhile (· != '/')).reverse

def removeFiles : Utility :=
  withOptions "rm" ⟨"frRvdiI", "", [("force", 'f'), ("recursive", 'r'), ("verbose", 'v'),
    ("dir", 'd')], true⟩ 1 fun g s =>
    if g.operands.isEmpty && !g.has 'f' then missingOperand "rm" 1 s
    else
      let deep := g.has 'r' || g.has 'R'
      let remove (p : Chars) (s : Shell) : Except Chars Shell :=
        let gone (s : Shell) (key : Key) (what : String) : Shell :=
          let s := { s with files := withoutTree s.files key }
          if g.has 'v' then s.put (what.toList ++ quotedName p ++ ['\n']) else s
        let refused (e : Failure) : Except Chars Shell := .error
          ("cannot remove ".toList ++ quotedName p ++ ": ".toList ++ Shell.reason e)
        let name := lastPart p
        if deep && (name = ['.'] || name = ['.', '.']) then
          .error ("refusing to remove '.' or '..' directory: skipping ".toList ++ quotedName p)
        else match s.files.locate (Shell.pathOf p), s.files.get (Shell.pathOf p) with
          | .ok key, .ok (.file _ _) => .ok (gone s key "removed ")
          | .ok key, .ok .folder =>
            if key.isEmpty then
              .error ("it is dangerous to operate recursively on '/'\nrm: ".toList ++
                "use --no-preserve-root to override this failsafe".toList)
            else if deep || g.has 'd' && (s.files.names key).isEmpty then
              .ok (gone s key "removed directory ")
            else refused .isDirectory
          | .error e, _ => if g.has 'f' && e = .notFound then .ok s else refused e
          | _, .error e => if g.has 'f' && e = .notFound then .ok s else refused e
      forOperands remove "rm" g.operands s

def truncateFiles : Utility :=
  withOptions "truncate" ⟨"co", "sr", [("size", 's'), ("no-create", 'c')], true⟩ 1 fun g s =>
    match g.value? 's' with
    | none => pointToHelp "truncate" 1 (blame "truncate"
        "you must specify either '--size' or '--reference'".toList 1 s)
    | some text =>
      if g.operands.isEmpty then missingFile "truncate" s
      else
        let (sign, digits) := match text with
          | c :: cs => if c = '+' || c = '-' then (some c, cs) else (none, text)
          | [] => (none, [])
        match sizeOf? digits with
        | none => blame "truncate" ("Invalid number: ".toList ++ quotedName text) 1 s
        | some n =>
          let cut (p : Chars) (s : Shell) : Except Chars Shell :=
            let old := ((s.files.read (Shell.pathOf p)).toOption).getD []
            let size := match sign with
              | some '+' => old.length + n
              | some _ => old.length - n
              | none => n
            let content := old.take size ++ List.replicate (size - old.length) 0
            match s.files.write (Shell.pathOf p) content with
            | .ok files => .ok { s with files := files }
            | .error e => .error
              ("cannot open ".toList ++ quotedName p ++ " for writing: ".toList ++ Shell.reason e)
          forOperands cut "truncate" g.operands s

/-- Whether a mode makes a file executable, if it says so. -/
def modeOf? (mode : Chars) : Option (Option Bool) :=
  if mode.all isDigitOrNone && !mode.isEmpty then
    some (some ((mode.filterMap digitValue?).any fun d => d % 2 = 1))
  else
    let who := mode.takeWhile fun c => "ugoa".toList.contains c
    match mode.drop who.length with
    | sign :: what =>
      if "+-=".toList.contains sign && what.all (fun c => "rwxXst,+-=ugoa".toList.contains c) then
        let hasX := what.contains 'x'
        if sign = '+' then some (if hasX then some true else none)
        else if sign = '-' then some (if hasX then some false else none)
        else some (some hasX)
      else none
    | [] => none
where
  isDigitOrNone (c : Char) : Bool := isDigitOf 8 c

/-- Gives a file another mode. -/
def withMode (files : Files) (key : Key) (executable : Bool) : Files :=
  match files.entry? key with
  | some (.file content access) =>
    files.put key (.file content { access with executable := executable })
  | _ => files

def changeModes : Utility := fun args s =>
  let isMode (a : Chars) : Bool := (modeOf? a).isSome
  let flags := args.filter fun a => a.head? = some '-' && !isMode a
  let operands := args.filter fun a => !(a.head? = some '-' && !isMode a)
  let deep := flags.any (·.contains 'R')
  match operands with
  | [] => missingOperand "chmod" 1 s
  | [mode] => pointToHelp "chmod" 1
      (blame "chmod" ("missing operand after ".toList ++ quotedName mode) 1 s)
  | mode :: paths =>
    match modeOf? mode with
    | none => pointToHelp "chmod" 1 (blame "chmod" ("invalid mode: ".toList ++ quotedName mode) 1 s)
    | some change =>
      let apply (p : Chars) (s : Shell) : Except Chars Shell :=
        match s.files.locate (Shell.pathOf p), s.files.get (Shell.pathOf p), change with
        | .ok key, .ok .folder, some executable =>
          let keys := s.files.entries.filterMap fun (k, _) =>
            if deep && key.isPrefixOf k then some k else none
          .ok { s with files := keys.foldl (fun f k => withMode f k executable) s.files }
        | .ok key, .ok (.file _ _), some executable =>
          .ok { s with files := withMode s.files key executable }
        | .ok _, .ok _, none => .ok s
        | .error e, _, _ => .error
          ("cannot access ".toList ++ quotedName p ++ ": ".toList ++ Shell.reason e)
        | _, .error e, _ => .error
          ("cannot access ".toList ++ quotedName p ++ ": ".toList ++ Shell.reason e)
      forOperands apply "chmod" paths s

/-! ### Copies -/

/-- The target of a copy: a path in a folder if the target is one. -/
def targetOf (s : Shell) (asFile : Bool) (source target : Chars) : Chars :=
  if !asFile && s.files.isFolder (Shell.pathOf target) then
    (if target.getLast? = some '/' then target else target ++ ['/']) ++ lastPart source
  else target

/-- What is done with sources: they are copied, moved or linked to. -/
inductive Transfer where
  | copy
  | move
  | link
  deriving DecidableEq

/-- How sources are transferred. -/
structure TransferWay where
  name : String
  kind : Transfer
  deep : Bool
  spares : Bool
  verbose : Bool
  asFile : Bool
  forced : Bool

/-- Transfers one source to its target. -/
def TransferWay.one (w : TransferWay) (source target : Chars) (s : Shell) : Except Chars Shell := do
  let path := targetOf s w.asFile source target
  let shown : Chars := match w.kind with
    | .copy => quotedName source ++ " -> ".toList ++ quotedName path
    | .move => "renamed ".toList ++ quotedName source ++ " -> ".toList ++ quotedName path
    | .link => quotedName path ++ " -> ".toList ++ quotedName source
  let done (files : Files) : Shell :=
    let s := { s with files := files }
    if w.verbose then s.put (shown ++ ['\n']) else s
  let unseen (e : Failure) : Chars :=
    (if w.kind = .link then "failed to access " else "cannot stat ").toList ++
      quotedName source ++ ": ".toList ++ Shell.reason e
  let from_ ← match device? source, s.files.get (Shell.pathOf source) with
    | some _, _ => .ok (Entry.file [] false)
    | none, .ok e => .ok e
    | none, .error e => .error (unseen e)
  let key := ((s.files.locate (Shell.pathOf source)).toOption).getD []
  let uncreated (e : Failure) : Chars :=
    let what := match w.kind with
      | .copy => "cannot create regular file "
      | .move => "cannot move " ++ String.ofList (quotedName source) ++ " to "
      | .link => "failed to create hard link "
    what.toList ++ quotedName path ++ ": ".toList ++ Shell.reason e
  let goal ← match s.files.locate (Shell.pathOf path) with
    | .ok k => .ok k
    | .error e => .error (uncreated e)
  let there := s.files.entry? goal
  if w.spares && there.isSome then return s
  if w.kind != .link && key = goal && (device? source).isNone then
    .error (quotedName source ++ " and ".toList ++ quotedName path ++
      " are the same file".toList)
  match from_, there with
  | .folder, some (.file _ _) =>
    .error ("cannot overwrite non-directory ".toList ++ quotedName path ++ " with directory ".toList
      ++ quotedName source)
  | .file _ _, some .folder =>
    .error ("cannot overwrite directory ".toList ++ quotedName path ++
      " with non-directory".toList)
  | .folder, _ =>
    match w.kind with
    | .copy =>
      if w.deep then return done (withCopy s.files key goal)
      else .error ("-r not specified; omitting directory ".toList ++ quotedName source)
    | .move =>
      if (s.files.names goal).isEmpty then
        return done (withoutTree (withCopy s.files key goal) key)
      else .error ("cannot overwrite ".toList ++ quotedName path ++
        ": Directory not empty".toList)
    | .link => .error (source ++ ": hard link not allowed for directory".toList)
  | .file content access, _ =>
    match w.kind with
    | .copy =>
      if let some cause := access.barred then
        throw ("cannot open ".toList ++ quotedName source ++ " for reading: ".toList ++
          Shell.reason cause)
      let keeps : Access := match there with
        | some (.file _ a) => a
        | _ => access
      return done (s.files.put goal (.file content keeps))
    | .move => return done (withoutTree (s.files.put goal from_) key)
    | .link =>
      if there.isSome && !w.forced then
        .error ("failed to create hard link ".toList ++ quotedName path ++
          ": File exists".toList)
      else return done (s.files.put goal from_)

/-- Transfers all operands but the last to that one. -/
def TransferWay.all (w : TransferWay) (folder : Option Chars) (operands : List Chars) (s : Shell) :
    Shell :=
  match folder, operands with
  | _, [] => missingFile w.name s
  | some target, sources => forOperands (w.one · target) w.name sources s
  | none, [only] =>
    if w.kind = .link then forOperands (w.one · ['.']) w.name [only] s
    else pointToHelp w.name 1 (blame w.name
      ("missing destination file operand after ".toList ++ quotedName only) 1 s)
  | none, _ =>
    let sources := operands.dropLast
    let target := operands.getLastD []
    let isFolder := s.files.isFolder (Shell.pathOf target)
    if 1 < sources.length && !isFolder then
      let cause : Chars := if s.files.contains (Shell.pathOf target) then ": Not a directory".toList
        else ": No such file or directory".toList
      blame w.name ("target ".toList ++ quotedName target ++ cause) 1 s
    else forOperands (w.one · target) w.name sources s

def copyFiles : Utility :=
  withOptions "cp" ⟨"afiLHPprRnuvTldx", "tS", [("recursive", 'r'), ("force", 'f'),
    ("verbose", 'v'), ("archive", 'a'), ("no-clobber", 'n'), ("target-directory", 't'),
    ("preserve", 'p'), ("no-target-directory", 'T')], true⟩ 1 fun g s =>
    let w : TransferWay := ⟨"cp", .copy, g.has 'r' || g.has 'R' || g.has 'a', g.has 'n',
      g.has 'v', g.has 'T', false⟩
    w.all (g.value? 't') g.operands s

def moveFiles : Utility :=
  withOptions "mv" ⟨"finuvTb", "tS", [("force", 'f'), ("verbose", 'v'), ("no-clobber", 'n'),
    ("target-directory", 't'), ("no-target-directory", 'T')], true⟩ 1 fun g s =>
    let w : TransferWay := ⟨"mv", .move, true, g.has 'n', g.has 'v', g.has 'T', false⟩
    w.all (g.value? 't') g.operands s

/-- Links files. There are no symbolic links among these files; a copy takes the place of one. -/
def linkFiles : Utility :=
  withOptions "ln" ⟨"sfnvrTb", "tS", [("symbolic", 's'), ("force", 'f'), ("verbose", 'v')],
    true⟩ 1 fun g s =>
    let w : TransferWay := ⟨"ln", .link, false, false, g.has 'v', g.has 'T' || g.has 'n',
      g.has 'f'⟩
    w.all (g.value? 't') g.operands s

/-- Copies files into place, with folders around them and a mode. -/
def installFiles : Utility :=
  withOptions "install" ⟨"dDvcCpsT", "mogt", [("directory", 'd'), ("mode", 'm'),
    ("verbose", 'v')], true⟩ 1 fun g s =>
    if g.operands.isEmpty then missingFile "install" s
    else if g.has 'd' then
      forOperands (fun p s => .ok { s with files := (s.files.makeFolders (Shell.pathOf p)).1 })
        "install" g.operands s
    else
      let executable := (((g.value? 'm').bind modeOf?).getD (some true)).getD true
      let target := g.operands.getLastD []
      let lead := (target.reverse.dropWhile (· != '/')).reverse
      let s := if g.has 'D' && !lead.isEmpty then
        { s with files := (s.files.makeFolders (Shell.pathOf lead)).1 } else s
      let w : TransferWay := ⟨"install", .copy, false, false, g.has 'v', g.has 'T', false⟩
      let s := w.all (g.value? 't') g.operands s
      let placed := g.operands.dropLast.map fun source => targetOf s (g.has 'T') source target
      { s with files := placed.foldl (fun files p =>
          match files.locate (Shell.pathOf p) with
          | .ok key => withMode files key executable
          | .error _ => files) s.files }

def makeTemporary : Utility :=
  withOptions "mktemp" ⟨"duqt", "p", [("directory", 'd'), ("tmpdir", 'p'), ("dry-run", 'u')],
    true⟩ 1 fun g s =>
    let template := g.operands.headD "tmp.XXXXXXXXXX".toList
    let lead := if g.operands.isEmpty || g.has 't' then "/tmp/".toList else
      (g.value? 'p').elim [] (· ++ ['/'])
    let name (n : Nat) : Chars :=
      let digits := natText (100000 + n)
      let blanks := (template.reverse.takeWhile (· = 'X')).length
      lead ++ template.take (template.length - blanks) ++
        (List.replicate (blanks - digits.length) 'k' ++ digits).drop (digits.length - blanks)
    let path := ((List.range 1000).map name).find? fun p => !s.files.contains (Shell.pathOf p)
    let path := path.getD (name 0)
    let made := if g.has 'u' then .ok s.files
      else if g.has 'd' then s.files.makeFolder (Shell.pathOf path)
      else s.files.write (Shell.pathOf path) []
    match made with
    | .ok files => { s with files := files }.say (path ++ ['\n'])
    | .error e => blame "mktemp" ("failed to create file via template ".toList ++
        quotedName (lead ++ template) ++ ": ".toList ++ Shell.reason e) 1 s

/-! ### Names -/

/-- The sign after the name of something, which tells what it is. -/
def kindSign (g : Given) (e : Entry) : Chars :=
  match e with
  | .folder => if g.has 'F' || g.has 'p' then ['/'] else []
  | .file _ access => if g.has 'F' && access.executable then ['*'] else []

/-- A file as it is listed with all that is known of it. -/
def longLine (g : Given) (name : Chars) (e : Entry) : Chars :=
  let (mode, links, size) := match e with
    | .folder => ("drwxr-xr-x", 2, 4096)
    | .file content access => (if access.executable then "-rwxr-xr-x" else "-rw-r--r--", 1,
        content.length)
  mode.toList ++ ' ' :: natText links ++ " root root ".toList ++ natText size ++
    " Jan  1 00:00 ".toList ++ name ++ kindSign g e ++ ['\n']

/-- The names in a folder that are shown, in their order. -/
def listedNames (g : Given) (files : Files) (p : Chars) : List (Chars × Entry) :=
  let path := Shell.pathOf p
  let names := ((files.list path).toOption.getD []).map Chars.ofBytes
  let names := if g.has 'a' then [['.'], ['.', '.']] ++ names else names
  let names := names.filter fun n => g.has 'a' || g.has 'A' || n.head? != some '.'
  let found := names.map fun n =>
    (n, ((files.get (Shell.pathOf (p ++ '/' :: n))).toOption).getD .folder)
  let size : Entry → Nat
    | .folder => 4096
    | .file content _ => content.length
  let sorted := found.mergeSort fun a b =>
    if g.has 'S' && size a.2 != size b.2 then size b.2 < size a.2
    else !Bytes.before (Chars.toBytes b.1) (Chars.toBytes a.1)
  if g.has 'r' then sorted.reverse else sorted

/-- Names one below the other, or all that is known of them. -/
def shownNames (g : Given) (inFolder : Bool) (names : List (Chars × Entry)) : Chars :=
  if g.has 'l' then
    (if inFolder then "total 0\n".toList else []) ++
      names.flatMap fun (name, e) => longLine g name e
  else if g.has 'm' then
    ", ".toList.intercalate (names.map fun (name, e) => name ++ kindSign g e) ++
      if names.isEmpty then [] else ['\n']
  else if g.has 'x' || g.has 'C' then
    "  ".toList.intercalate (names.map fun (name, e) => name ++ kindSign g e) ++
      if names.isEmpty then [] else ['\n']
  else names.flatMap fun (name, e) => name ++ kindSign g e ++ ['\n']

/-- A folder and those below it, each with its names. -/
def listTree (g : Given) (files : Files) : (fuel : Nat) → Chars → List (Chars × Chars)
  | 0, _ => []
  | fuel + 1, p =>
    let names := listedNames g files p
    let lead := if p.getLast? = some '/' then p else p ++ ['/']
    (p, shownNames g true names) :: names.flatMap fun (name, e) =>
      if e == .folder && name != ['.'] && name != ['.', '.'] then
        listTree g files fuel (lead ++ name)
      else []

def listFiles : Utility :=
  withOptions "ls" ⟨"1aAdRlrtSFpiosghCxmUhnkcfGNqQbvX", "wIT", [("all", 'a'), ("almost-all", 'A'),
    ("directory", 'd'), ("recursive", 'R'), ("reverse", 'r'), ("color", 'N')], true⟩ 2 fun g s =>
    let operands := if g.operands.isEmpty then [['.']] else g.operands
    let (found, s) := operands.foldl (fun (found, s) p =>
      match s.files.get (Shell.pathOf p), (s.find? p).isSome with
      | .ok e, _ => (found ++ [(p, e)], s)
      | .error _, true => (found ++ [(p, Entry.file [] true)], s)
      | .error e, false =>
        (found, blame "ls"
          ("cannot access ".toList ++ quotedName p ++ ": ".toList ++ Shell.reason e) 2 s))
      (([] : List (Chars × Entry)), s.answer 0)
    let found := found.mergeSort fun a b => !Bytes.before b.1.toBytes a.1.toBytes
    let found := if g.has 'r' then found.reverse else found
    let alone (e : Entry) : Bool := g.has 'd' || e != .folder
    let files := found.filter fun (_, e) => alone e
    let folders := (found.filter fun (_, e) => !alone e).flatMap fun (p, _) =>
      if g.has 'R' then listTree g s.files 64 p
      else [(p, shownNames g true (listedNames g s.files p))]
    let titled := g.has 'R' || 1 < operands.length
    let blocks := (if files.isEmpty then [] else [shownNames g false files]) ++
      folders.map fun (p, shown) => (if titled then p ++ ":\n".toList else []) ++ shown
    s.put (['\n'].intercalate blocks)

/-- The last part of a path without an ending. -/
def baseName (p ending : Chars) : Chars :=
  let name := if p.all (· = '/') then p.take 1 else lastPart p
  if ending.isSuffixOf name && name != ending then name.take (name.length - ending.length) else name

def baseNames : Utility :=
  withOptions "basename" ⟨"az", "s", [("multiple", 'a'), ("suffix", 's')], false⟩ 1 fun g s =>
    let many := g.has 'a' || g.has 's'
    match g.operands with
    | [] => missingOperand "basename" 1 s
    | [p] => s.say (baseName p ((g.value? 's').getD []) ++ ['\n'])
    | p :: ending :: rest =>
      if many then s.say (unlines (g.operands.map fun p => baseName p ((g.value? 's').getD [])))
      else match rest with
        | [] => s.say (baseName p ending ++ ['\n'])
        | extra :: _ => extraOperand "basename" extra s

/-- The path without its last part. -/
def folderName (p : Chars) : Chars :=
  let slashes (cs : Chars) : Chars := cs.dropWhile (· = '/')
  let rest := slashes ((slashes p.reverse).dropWhile (· != '/'))
  if rest.isEmpty then if p.head? = some '/' then ['/'] else ['.'] else rest.reverse

def folderNames : Utility :=
  withOptions "dirname" ⟨"z", "", [], true⟩ 1 fun g s =>
    if g.operands.isEmpty then missingOperand "dirname" 1 s
    else s.say (unlines (g.operands.map folderName))

/-- The path of a key. -/
def pathOfKey (key : Key) : Chars :=
  if key.isEmpty then ['/'] else Chars.ofBytes (key.flatMap (Bytes.slash :: ·))

/-- The full path of something, of which the last parts need not be there. -/
def fullPath (s : Shell) (loose : Bool) (p : Chars) : Except Failure Chars :=
  match s.files.locate (Shell.pathOf p) with
  | .ok key =>
    if loose || (s.files.entry? key.dropLast).isSome then .ok (pathOfKey key) else .error .notFound
  | .error e =>
    if loose then
      let start := if p.head? = some '/' then [] else s.files.here
      let key := (p.splitOn '/').foldl (fun (key : Key) part =>
        if part.isEmpty || part = ['.'] then key
        else if part = ['.', '.'] then key.dropLast
        else key ++ [(Chars.toBytes part)]) start
      .ok (pathOfKey key)
    else .error e

def realPaths : Utility :=
  withOptions "realpath" ⟨"emLPqsz", "", [("canonicalize-missing", 'm'),
    ("canonicalize-existing", 'e'), ("no-symlinks", 's'), ("quiet", 'q')], true⟩ 1 fun g s =>
    if g.operands.isEmpty then missingOperand "realpath" 1 s
    else g.operands.foldl (fun s p =>
      let full := fullPath s (g.has 'm') p
      let full := if g.has 'e' && (s.find? p).isNone then .error .notFound else full
      match full with
      | .ok full => s.put (full ++ ['\n'])
      | .error e => if g.has 'q' then s.answer 1
        else blame "realpath" (nameInErrors p ++ ": ".toList ++ Shell.reason e) 1 s) (s.answer 0)

/-- Shows full paths. There are no symbolic links whose targets could be shown. -/
def readLinks : Utility :=
  withOptions "readlink" ⟨"femnqsvz", "", [("canonicalize", 'f'), ("no-newline", 'n')], true⟩ 1
    fun g s =>
    if g.operands.isEmpty then missingOperand "readlink" 1 s
    else g.operands.foldl (fun s p =>
      let full := if g.has 'f' || g.has 'm' || g.has 'e' then fullPath s (g.has 'm') p
        else .error .notFound
      let full := if g.has 'e' && (s.find? p).isNone then .error .notFound else full
      match full with
      | .ok full => s.put (full ++ if g.has 'n' then [] else ['\n'])
      | .error _ => s.answer 1) (s.answer 0)

/-- A format with what is known of a file in the place of letters. -/
def statText (name : Chars) (e : Entry) : Chars → Chars
  | '%' :: c :: rest =>
    let (kind, mode, size) := match e with
      | .folder => ("directory", "755", 4096)
      | .file content access =>
        (if content.isEmpty then "regular empty file" else "regular file",
          if access.executable then "755" else "644", content.length)
    let shown : Chars := match c with
      | 's' => natText size
      | 'n' => name
      | 'N' => quotedName name
      | 'F' => kind.toList
      | 'a' => mode.toList
      | 'U' => "root".toList
      | 'G' => "root".toList
      | 'u' => ['0']
      | 'g' => ['0']
      | 'h' => ['1']
      | _ => [c]
    shown ++ statText name e rest
  | c :: rest => c :: statText name e rest
  | [] => []

def statFiles : Utility :=
  withOptions "stat" ⟨"Lft", "cp", [("format", 'c'), ("printf", 'p'), ("dereference", 'L')],
    true⟩ 1 fun g s =>
    if g.operands.isEmpty then missingOperand "stat" 1 s
    else g.operands.foldl (fun s p =>
      match s.files.get (Shell.pathOf p) with
      | .ok e =>
        match g.value? 'c', g.value? 'p' with
        | some format, _ => s.put (statText p e format ++ ['\n'])
        | none, some format => s.put (unescaped (statText p e format)).1
        | none, none => s.put ("  File: ".toList ++ p ++ ['\n'])
      | .error e => blame "stat"
        ("cannot statx ".toList ++ quotedName p ++ ": ".toList ++ Shell.reason e) 1 s) (s.answer 0)

end PxeLaunch.Script

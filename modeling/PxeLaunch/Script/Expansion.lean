import PxeLaunch.Script.Arithmetic
import PxeLaunch.Script.Pattern
import PxeLaunch.Script.Shell

/-!
The expansion of words. A word becomes glyphs, which remember whether they were in quotes and
whether they may be cut; glyphs are put together into fields, cut at separators, and fields that are
patterns give way to the names of the files that fit them.
-/

set_option autoImplicit false

namespace PxeLaunch.Script

/-- A piece of an expanded word. Quotes leave a mark, so that a field can be empty, and there is a
gap between two arguments. -/
inductive Glyph where
  | char (c : Char) (quoted cuts : Bool)
  | quotes
  | gap

/-! ### Fields -/

/-- Glyphs after the separators of a cut: blank ones, and one that is not blank unless the cut was
at such a one. -/
def afterCut (separators : Chars) (isBlankOnly : Bool) : List Glyph → List Glyph
  | .char c quoted cuts :: rest =>
    if !cuts || quoted || !separators.contains c then .char c quoted cuts :: rest
    else if isBlank c || c = '\n' then afterCut separators isBlankOnly rest
    else if isBlankOnly then afterCut separators false rest
    else .char c quoted cuts :: rest
  | rest => rest

/-- A field whose last characters stand first. -/
def fieldOf (field : Option (List Marked)) : List (List Marked) := (field.map List.reverse).toList

/-- The fields that glyphs make up, after some characters of the first one. -/
def fieldsFrom (separators : Chars) (field : Option (List Marked)) :
    (fuel : Nat) → List Glyph → List (List Marked)
  | 0, _ => fieldOf field
  | _, [] => fieldOf field
  | fuel + 1, .gap :: rest => fieldOf field ++ fieldsFrom separators none fuel rest
  | fuel + 1, .quotes :: rest => fieldsFrom separators (some (field.getD [])) fuel rest
  | fuel + 1, .char c quoted cuts :: rest =>
    if cuts && !quoted && separators.contains c then
      let blank := isBlank c || c = '\n'
      if field.isNone && blank then fieldsFrom separators none fuel rest
      else
        fieldOf (some (field.getD [])) ++
          fieldsFrom separators none fuel (afterCut separators blank rest)
    else fieldsFrom separators (some ((c, quoted) :: field.getD [])) fuel rest

/-- The characters of glyphs with their quotes. -/
def markedOf (glyphs : List Glyph) : List Marked :=
  glyphs.filterMap fun
    | .char c quoted _ => some (c, quoted)
    | .quotes => none
    | .gap => some (' ', true)

/-- The characters of glyphs. -/
def textOf (glyphs : List Glyph) : Chars := (markedOf glyphs).map (·.1)

/-- A value as glyphs, which may be cut unless it is in quotes. -/
def glyphsOf (quoted : Bool) (cs : Chars) : List Glyph :=
  (if quoted then [.quotes] else []) ++ cs.map fun c => .char c quoted true

/-! ### Names of files -/

/-- The parts of a pattern between slashes. -/
def splitMarked : List Marked → List (List Marked)
  | [] => [[]]
  | (c, quoted) :: rest =>
    if c = '/' then [] :: splitMarked rest
    else match splitMarked rest with
      | part :: parts => ((c, quoted) :: part) :: parts
      | [] => [[(c, quoted)]]

/-- The names in a folder that fit a pattern. Hidden ones have to be asked for by their dot. -/
def namesThatFit (files : Files) (folder : Chars) (part : List Marked) : List Chars :=
  let listed := (files.list (Shell.pathOf (if folder.isEmpty then ['.'] else folder))).toOption
  let names := match listed with
    | some names => [['.'], ['.', '.']] ++ names.map Chars.ofBytes
    | none => []
  let hidden := (part.head?.map (·.1)) = some '.'
  let pattern := Pattern.ofMarked part
  (names.filter fun name => (hidden || name.head? != some '.') && pattern.fits name).mergeSort
    fun a b => !Bytes.before b.toBytes a.toBytes

/-- The paths that fit the parts of a pattern, below a path that has been found. -/
def pathsThatFit (files : Files) (lead : Chars) : List (List Marked) → List Chars
  | [] => [lead]
  | [part] =>
    if isPattern part then (namesThatFit files lead part).map (lead ++ ·)
    else
      let path := lead ++ part.map (·.1)
      if path.isEmpty || files.contains (Shell.pathOf path) then [path] else []
  | part :: rest =>
    let found :=
      if isPattern part then
        (namesThatFit files lead part).filter fun name =>
          files.isFolder (Shell.pathOf (lead ++ name))
      else [part.map (·.1)]
    found.flatMap fun name => pathsThatFit files (lead ++ name ++ ['/']) rest

/-- The paths that a field stands for, which is itself if it fits none. -/
def pathsOf (s : Shell) (field : List Marked) : List Chars :=
  let text := field.map (·.1)
  if s.has 'f' || !isPattern field then [text]
  else
    let found := pathsThatFit s.files [] (splitMarked field)
    if found.isEmpty then [text] else found

/-! ### Parts -/

/-- Runs a script apart and gives back what it shows. -/
abbrev Collector := Tree → Shell → Shell × Chars

/-- Where expressions find the values of names. -/
def namesOfShell : Arithmetic.Names Shell where
  value? name s := s.value? name
  assign? name value s := if s.isFixed name then none else some (s.assign name value)

/-- Complains that a parameter has no value. -/
def unset (name message : Chars) (orEmpty : Bool) (s : Shell) : Shell :=
  let usual := if orEmpty then "parameter not set or null" else "parameter not set"
  s.fail (name ++ ": ".toList ++ if message.isEmpty then usual.toList else message)

/-- Expands a part of a word. -/
def expandPart (collect : Collector) : (fuel : Nat) → Shell → Part → Shell × List Glyph
  | 0, s, _ => (s, [])
  | fuel + 1, s, part =>
    let inside (s : Shell) (w : Word) : Shell × List Glyph :=
      w.foldl (fun (s, glyphs) p =>
        if s.goesOn then
          let (s, more) := expandPart collect fuel s p
          (s, glyphs ++ more)
        else (s, glyphs)) (s, [])
    match part with
    | .char c quoted => (s, [.char c quoted false])
    | .quotes => (s, [.quotes])
    | .arithmetic expression quoted =>
      let (s, glyphs) := inside s expression
      if !s.goesOn then (s, [])
      else match Arithmetic.evaluate namesOfShell (textOf glyphs) s with
        | .ok (n, s) => (s, glyphsOf quoted (intText n))
        | .error fault => (s.fail (fault.message (textOf glyphs)), [])
    | .output t quoted =>
      let (s, shown) := collect t s
      let kept := (shown.reverse.dropWhile (· = '\n')).reverse.filter (·.toNat != 0)
      (s, glyphsOf quoted kept)
    | .parameter name request quoted =>
      let value? := s.value? name
      let value := value?.getD []
      let isList := name = ['@'] || name = ['*']
      let isNone (orEmpty : Bool) : Bool :=
        value?.isNone && !isList || orEmpty && value.isEmpty
      let given : List Glyph :=
        if name = ['@'] || name = ['*'] && !quoted then
          [Glyph.gap].intercalate (s.arguments.map (glyphsOf quoted))
        else glyphsOf quoted value
      let checked (result : Shell × List Glyph) : Shell × List Glyph :=
        if value?.isNone && !isList && s.has 'u' then (unset name [] false s, []) else result
      let other (w : Word) : Shell × List Glyph :=
        let (s, glyphs) := inside s w
        (s, if quoted then .quotes :: glyphs else glyphs.map fun
          | .char c false _ => .char c false true
          | g => g)
      match request with
      | .value => checked (s, given)
      | .length => checked (s, glyphsOf quoted (natText value.length))
      | .fallback orEmpty w => if isNone orEmpty then other w else (s, given)
      | .replacement orEmpty w => if isNone orEmpty then (s, glyphsOf quoted []) else other w
      | .assignment orEmpty w =>
        if isNone orEmpty then
          let (s, glyphs) := inside s w
          if !s.goesOn then (s, [])
          else if isGoodName name then
            let value := textOf glyphs
            (s.tryAssign name value, glyphsOf quoted value)
          else (s.fail (name ++ ": bad variable name".toList), [])
        else (s, given)
      | .demand orEmpty w =>
        if isNone orEmpty then
          let (s, glyphs) := inside s w
          (if s.goesOn then unset name (textOf glyphs) orEmpty s else s, [])
        else (s, given)
      | .trimmed atEnd longest w =>
        let (t, glyphs) := inside s w
        if !t.goesOn then (t, [])
        else
          let pattern := Pattern.ofMarked (markedOf glyphs)
          let kept := if atEnd then pattern.trimEnd longest value
            else pattern.trimStart longest value
          checked (t, glyphsOf quoted kept)
      | .malformed => (s.fail "Bad substitution".toList, [])

/-- How deep expansions may stand in one another. -/
def expansionDepth : Nat := 100

/-- The folder that a tilde stands for, as a protected text. -/
def homeOf (s : Shell) : Option (List Part) :=
  (s.value? "HOME".toList).map fun cs => .quotes :: cs.map (.char · true)

/-- A word in which a tilde at the front stands for a folder; in a value, one after a colon does,
too. -/
def withHome (s : Shell) (isValue atFront : Bool) : Word → Word
  | [] => []
  | .char c quoted :: rest =>
    let others := withHome s isValue (isValue && c = ':' && !quoted) rest
    let ends := match rest with
      | [] => true
      | .char d false :: _ => d = '/' || isValue && d = ':'
      | _ => false
    match if atFront && c = '~' && !quoted && ends then homeOf s else none with
    | some home => home ++ others
    | none => .char c quoted :: others
  | p :: rest => p :: withHome s isValue false rest

/-- Expands a word. -/
def expandGlyphs (collect : Collector) (s : Shell) (w : Word) : Shell × List Glyph :=
  w.foldl (fun (s, glyphs) p =>
    if s.goesOn then
      let (s, more) := expandPart collect expansionDepth s p
      (s, glyphs ++ more)
    else (s, glyphs)) (s, [])

/-- A word in which arguments are not kept apart. -/
def unseparated (w : Word) : Word :=
  w.map fun
    | .parameter ['@'] .value _ => .parameter ['*'] .value true
    | .parameter ['*'] .value _ => .parameter ['*'] .value true
    | p => p

/-- Expands a word to one text with its quotes. -/
def expandMarked (collect : Collector) (isValue : Bool) (s : Shell) (w : Word) :
    Shell × List Marked :=
  let (s, glyphs) := expandGlyphs collect s (unseparated (withHome s isValue true w))
  (s, markedOf glyphs)

/-- Expands a word to one text. -/
def expandText (collect : Collector) (isValue : Bool) (s : Shell) (w : Word) : Shell × Chars :=
  let (s, marked) := expandMarked collect isValue s w
  (s, marked.map (·.1))

/-- Expands a word to fields. -/
def expandWord (collect : Collector) (s : Shell) (w : Word) : Shell × List Chars :=
  let (s, glyphs) := expandGlyphs collect s (withHome s false true w)
  (s, (fieldsFrom s.separators none (glyphs.length + 1) glyphs).flatMap (pathsOf s))

/-- Expands words to fields. -/
def expandWords (collect : Collector) (s : Shell) (ws : List Word) : Shell × List Chars :=
  ws.foldl (fun (s, fields) w =>
    if s.goesOn then
      let (s, more) := expandWord collect s w
      (s, fields ++ more)
    else (s, fields)) (s, [])

end PxeLaunch.Script

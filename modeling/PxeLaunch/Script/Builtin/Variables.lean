import PxeLaunch.Script.Options
import PxeLaunch.Script.Source
import PxeLaunch.Script.Utility.Input

/-!
Commands that a script is run with: those that change its variables, its arguments and its options.
-/

set_option autoImplicit false

namespace PxeLaunch.Script

/-! ### Texts that can be read again -/

/-- A text in quotes, from which a script reads the same text. Quotes inside stand in the other
kind of quotes. -/
def requoted : (fuel : Nat) → Chars → Chars
  | 0, _ => []
  | fuel + 1, cs =>
    let plain := cs.takeWhile (· != '\'')
    let rest := cs.drop plain.length
    let quotes := rest.takeWhile (· = '\'')
    let after := rest.drop quotes.length
    '\'' :: plain ++ '\'' ::
      if quotes.isEmpty then []
      else '"' :: quotes ++ '"' :: if after.isEmpty then [] else requoted fuel after

def quotedAgain (cs : Chars) : Chars := requoted (cs.length + 1) cs

/-! ### Arguments -/

/-- A command of scripts with options. An option that there is not is an error. -/
def withLetters (flags valued : String) (f : Given → Shell → Shell) : Utility := fun args s =>
  match (Options.mk flags valued [] false).read args with
  | .ok g => f g s
  | .error (.unknown letter) => s.fail ("Illegal option -".toList ++ [letter])
  | .error (.noValue letter) => s.fail ("No arg for -".toList ++ letter :: " option".toList)
  | .error _ => s.fail "Illegal option --".toList

/-- A number that is given to a command, which cannot be negative. -/
def withCount (arg : Chars) (f : Nat → Shell → Shell) (s : Shell) : Shell :=
  match intOf? arg with
  | some n =>
    if n < 0 || 2147483647 < n then s.fail ("Illegal number: ".toList ++ arg) else f n.toNat s
  | none => s.fail ("Illegal number: ".toList ++ arg)

/-- The name and the value of an argument that assigns. -/
def splitAssignment (arg : Chars) : Chars × Option Chars :=
  let name := arg.takeWhile (· != '=')
  (name, if name.length < arg.length then some (arg.drop (name.length + 1)) else none)

/-! ### Variables -/

/-- The variables for which something holds, each after a word. -/
def listVariables (lead : String) (holds : Variable → Bool) (s : Shell) : Shell :=
  let found := (s.bindings.filter fun (_, v) => holds v).mergeSort fun a b =>
    !Bytes.before (Chars.toBytes b.1) (Chars.toBytes a.1)
  let line (name : Chars) (v : Variable) : Chars :=
    let value := match v.value with
      | some value => '=' :: quotedAgain value
      | none => []
    lead.toList ++ name ++ value ++ ['\n']
  s.say (found.flatMap fun (name, v) => line name v)

/-- Gives variables values and marks them. -/
def declare (mark : Variable → Variable) (args : List Chars) (s : Shell) : Shell :=
  args.foldl (fun s arg =>
    if !s.goesOn then s
    else
      let (name, value?) := splitAssignment arg
      if !isGoodName name then s.fail (name ++ ": bad variable name".toList)
      else
        let s := match value? with
          | some value => s.tryAssign name value
          | none => s
        if s.goesOn then
          s.setVariable name (mark ((s.lookUp? name).getD ⟨none, false, false⟩))
        else s) (s.answer 0)

def exportVariables : Utility :=
  withLetters "p" "" fun g s =>
    if g.operands.isEmpty || g.has 'p' then listVariables "export " (·.isExported) s
    else declare (fun v => { v with isExported := true }) g.operands s

def fixVariables : Utility :=
  withLetters "p" "" fun g s =>
    if g.operands.isEmpty || g.has 'p' then listVariables "readonly " (·.isFixed) s
    else declare (fun v => { v with isFixed := true }) g.operands s

/-- Remembers what a variable was outside of a function. -/
def Shell.keep (s : Shell) (name : Chars) : Shell :=
  { s with locals := s.locals.map ((name, s.lookUp? name) :: ·) }

/-- Gives variables back what they were, those that were kept last first. -/
def Shell.restore (s : Shell) (kept : List (Chars × Option Variable)) : Shell :=
  kept.foldl (fun s (name, v?) => match v? with
    | some v => s.setVariable name v
    | none => s.discard name) s

def localVariables : Utility := fun args s =>
  if s.locals.isNone then s.fail "not in a function".toList
  else
    let args := args.filter fun arg => arg != ['-']
    args.foldl (fun s arg =>
      if !s.goesOn then s
      else
        let name := (splitAssignment arg).1
        if isGoodName name then declare id [arg] (s.keep name)
        else s.fail (name ++ ": bad variable name".toList)) (s.answer 0)

def unsetNames : Utility :=
  withLetters "fv" "" fun g s =>
    g.operands.foldl (fun s name =>
      if !s.goesOn then s
      else if g.last? "fv" = some 'f' then
        { s with functions := s.functions.filter (·.1 != name) }
      else if !isGoodName name then s.fail (name ++ ": bad variable name".toList)
      else if s.isFixed name then s.fail (name ++ ": is read only".toList)
      else s.discard name) (s.answer 0)

/-! ### Arguments and options of a script -/

def shiftArguments : Utility := fun args s =>
  let shift (n : Nat) (s : Shell) : Shell :=
    if s.arguments.length < n then s.fail "can't shift that many".toList
    else { s with arguments := s.arguments.drop n, optionPlace := ⟨1, none⟩ }.answer 0
  match args with
  | [] => shift 1 s
  | arg :: _ => withCount arg shift s

/-- The longer names of options. -/
def optionNames : List (String × Char) :=
  [("errexit", 'e'), ("noglob", 'f'), ("ignoreeof", 'I'), ("interactive", 'i'), ("monitor", 'm'),
   ("noexec", 'n'), ("stdin", 's'), ("xtrace", 'x'), ("verbose", 'v'), ("vi", 'V'),
   ("emacs", 'E'), ("noclobber", 'C'), ("allexport", 'a'), ("notify", 'b'), ("nounset", 'u'),
   ("nolog", 'N'), ("debug", 'D')]

/-- Shows all options and whether they are on. -/
def listOptions (on : Bool) (s : Shell) : Shell :=
  if on then
    s.say ("Current option settings\n".toList ++ optionNames.flatMap fun (name, letter) =>
      alignLeft 16 name.toList ++ (if s.has letter then "on\n" else "off\n").toList)
  else
    s.say (optionNames.flatMap fun (name, letter) =>
      (if s.has letter then "set -o " else "set +o ").toList ++ name.toList ++ ['\n'])

/-- Turns options on or off that are written as letters. One of them has a name as its value. -/
def switchLetters (on : Bool) (s : Shell) (rest : List Chars) : Chars → Shell × List Chars
  | [] => (s, rest)
  | 'o' :: letters =>
    match rest with
    | [] => (listOptions on s, [])
    | name :: rest =>
      match optionNames.find? fun o => o.1.toList = name with
      | some (_, letter) => switchLetters on (s.switch on letter) rest letters
      | none => (s.fail ("Illegal option ".toList ++ (if on then '-' else '+') :: 'o' :: ' ' ::
          name), rest)
  | letter :: letters =>
    if Shell.optionLetters.contains letter then
      switchLetters on (s.switch on letter) rest letters
    else (s.fail ("Illegal option ".toList ++ [if on then '-' else '+', letter]), rest)

/-- Turns options on and off, and takes what follows them for arguments. -/
def switchOptions : (fuel : Nat) → List Chars → Shell → Shell
  | 0, _, s => s
  | _, [], s => s
  | fuel + 1, arg :: rest, s =>
    if !s.goesOn then s
    else match arg with
      | ['-', '-'] => { s with arguments := rest, optionPlace := ⟨1, none⟩ }
      | ['-'] =>
        let s := (s.switch false 'x').switch false 'v'
        if rest.isEmpty then s else { s with arguments := rest, optionPlace := ⟨1, none⟩ }
      | '-' :: letters =>
        let (s, rest) := switchLetters true s rest letters
        switchOptions fuel rest s
      | '+' :: letters =>
        let (s, rest) := switchLetters false s rest letters
        switchOptions fuel rest s
      | _ => { s with arguments := arg :: rest, optionPlace := ⟨1, none⟩ }

def setOptions : Utility := fun args s =>
  if args.isEmpty then listVariables "" (·.value.isSome) s
  else switchOptions (args.length + 1) args (s.answer 0)

/-! ### Options in arguments -/

/-- What the reader of options finds: an option, its value if it calls for one, or a mistake. -/
inductive FoundOption where
  | letter (c : Char)
  | valued (c : Char) (value : Chars)
  | unknown (c : Char)
  | noValue (c : Char)
  | none

/-- The option at some characters, which stand at an offset of an argument. -/
def optionInside (known : Chars) (args : List Chars) (index offset : Nat) :
    Chars → FoundOption × OptionPlace
  | [] => (.none, ⟨index, none⟩)
  | c :: rest =>
    let next : OptionPlace :=
      if rest.isEmpty then ⟨index + 1, none⟩ else ⟨index, some (offset + 1)⟩
    if c = ':' || !known.contains c then (.unknown c, next)
    else if ((known.dropWhile (· != c)).drop 1).head? != some ':' then (.letter c, next)
    else if !rest.isEmpty then (.valued c rest, ⟨index + 1, none⟩)
    else match args[index]? with
      | some value => (.valued c value, ⟨index + 2, none⟩)
      | none => (.noValue c, ⟨index + 1, none⟩)

/-- The option that an argument begins with. -/
def optionAtFront (known : Chars) (args : List Chars) (index : Nat) : FoundOption × OptionPlace :=
  let arg := (args[index - 1]?).getD []
  if arg = ['-', '-'] then (.none, ⟨index + 1, none⟩)
  else if arg.length < 2 || arg.head? != some '-' then (.none, ⟨index, none⟩)
  else optionInside known args index 1 (arg.drop 1)

/-- Looks for the next option in arguments. -/
def nextOption (known : Chars) (args : List Chars) (place : OptionPlace) :
    FoundOption × OptionPlace :=
  match place.offset with
  | none => optionAtFront known args place.index
  | some offset =>
    let rest := ((args[place.index - 1]?).getD []).drop offset
    if rest.isEmpty then optionAtFront known args (place.index + 1)
    else optionInside known args place.index offset rest

def getOption : Utility := fun args s =>
  match args with
  | known :: name :: rest =>
    let quiet := known.head? = some ':'
    let known := if quiet then known.drop 1 else known
    let args := if rest.isEmpty then s.arguments else rest
    let (found, place) := nextOption known args s.optionPlace
    let optarg := "OPTARG".toList
    let give (letter : Char) (value? : Option Chars) (s : Shell) : Shell :=
      let s := match value? with
        | some value => s.assign optarg value
        | none => s.discard optarg
      let s := s.assign "OPTIND".toList (natText place.index)
      let s := { s with optionPlace := place }
      if isGoodName name then s.tryAssign name [letter]
      else s.fail (name ++ ": bad variable name".toList)
    match found with
    | .letter c => give c (some []) (s.answer 0)
    | .valued c value => give c (some value) (s.answer 0)
    | .unknown c =>
      if quiet then give '?' (some [c]) (s.answer 0)
      else give '?' none (s.complain ("Illegal option -".toList ++ [c]) 0)
    | .noValue c =>
      if quiet then give ':' (some [c]) (s.answer 0)
      else give '?' none (s.complain ("No arg for -".toList ++ c :: " option".toList) 0)
    | .none => give '?' (some []) (s.answer 1)
  | _ => s.fail "Usage: getopts optstring var [arg...]".toList

/-! ### Reading a line -/

/-- A character of a line, and whether a backslash protects it. -/
abbrev Protected := Char × Bool

/-- A line with its backslashes resolved, and whether the last of them joins the next line to it. -/
def resolved : Chars → List Protected × Bool
  | [] => ([], false)
  | ['\\'] => ([], true)
  | '\\' :: c :: rest =>
    let (more, joins) := resolved rest
    ((c, true) :: more, joins)
  | c :: rest =>
    let (more, joins) := resolved rest
    ((c, false) :: more, joins)

/-- Reads a line, and those that are joined to it, and says whether it has its newline. -/
def readJoined (raw : Bool) : (fuel : Nat) → Shell → List Protected × Bool × Shell
  | 0, s => ([], false, s)
  | fuel + 1, s =>
    let (bytes, ended, s) := s.takeLine 0
    let line := (Chars.ofBytes bytes).filter (·.toNat != 0)
    if raw then (line.map fun c => (c, false), ended, s)
    else
      let (found, joins) := resolved line
      if joins && ended then
        let (more, ended, s) := readJoined raw fuel s
        (found ++ more, ended, s)
      else (found, ended, s)

/-- The values of variables to which the fields of a line are given, the rest to the last. -/
def fieldValues (separators : Chars) : (count : Nat) → List Protected → List Chars
  | 0, _ => []
  | count + 1, line =>
    let separates (p : Protected) : Bool := !p.2 && separators.contains p.1
    let isGap (p : Protected) : Bool := separates p && isSpace p.1
    let line := line.dropWhile isGap
    let field := line.takeWhile (!separates ·)
    let text (ps : List Protected) : Chars := ps.map (·.1)
    let after := (line.drop field.length).dropWhile isGap
    let rest := match after with
      | p :: rest => if separates p then rest.dropWhile isGap else after
      | [] => []
    if count = 0 then
      if rest.isEmpty then [text field]
      else [text (line.reverse.dropWhile isGap).reverse]
    else text field :: fieldValues separators count rest

def readVariables : Utility :=
  withLetters "r" "pt" fun g s =>
    if g.operands.isEmpty then s.fail "arg count".toList
    else match g.operands.find? (!isGoodName ·) with
      | some name => s.fail (name ++ ": bad variable name".toList)
      | none =>
        let (line, ended, s) := readJoined (g.has 'r') 1000 s
        let values := fieldValues s.separators g.operands.length line
        (g.operands.zip values).foldl (fun s (name, value) =>
          if s.goesOn then s.tryAssign name value else s) (s.answer (if ended then 0 else 1))

end PxeLaunch.Script

import PxeLaunch.Script.Builtin.Variables
import PxeLaunch.Script.Program

/-!
Utilities that run other programs: with other variables, with arguments that are read from the
input, or for no longer than some time.
-/

set_option autoImplicit false

namespace PxeLaunch.Script

/-- What is said of a program that cannot be run, and the status of that. -/
def Shell.cannotRun (s : Shell) (text : Chars) (e : Failure) : Shell :=
  s.complain (text ++ ": ".toList ++ Shell.reason e) (if e = .notFound then 127 else 126)

/-- The state after a program has ended, whose status is passed on. -/
def Shell.passedOn (s : Shell) (status : ExitStatus) : Shell :=
  match status with
  | .exited code => s.answer code
  | .killed n => s.finish (.killed n)

/-- Runs a program in the place of a utility. -/
def runInstead (spawn : Spawn) (lead : Chars → Chars) (words : List Chars) (s : Shell) : Shell :=
  match spawn words s with
  | .ok (s, status) => s.passedOn status
  | .error e => s.cannotRun (lead (words.headD [])) e

def failedToRun (name : String) (program : Chars) : Chars :=
  name.toList ++ ": failed to run command ".toList ++ quotedName program

/-! ### Variables -/

/-- The words of a text that stands for several arguments. -/
def splitText (cs : Chars) : List Chars :=
  let (words, last, _) := cs.foldl (fun (words, word, quote) c =>
    match quote with
    | some q => if c = q then (words, word, none) else (words, word.map (· ++ [c]), some q)
    | none =>
      if c = '"' || c = '\'' then (words, some (word.getD []), some c)
      else if isSpace c then (words ++ word.toList, none, none)
      else (words, some (word.getD [] ++ [c]), none))
    (([] : List Chars), (none : Option Chars), (none : Option Char))
  words ++ last.toList

/-- The variables that programs know, each with its value. -/
def environmentText (ending : Char) (s : Shell) : Chars :=
  s.bindings.reverse.flatMap fun (name, v) =>
    match v.isExported, v.value with
    | true, some value => name ++ '=' :: value ++ [ending]
    | _, _ => []

def withEnvironment (spawn : Spawn) : Utility := fun args s =>
  let args := match args with
    | ['-', 'S'] :: text :: rest => splitText text ++ rest
    | ('-' :: 'S' :: text) :: rest => splitText text ++ rest
    | _ => args
  withOptions "env" ⟨"i0v", "uCS", [("ignore-environment", 'i'), ("unset", 'u'), ("null", '0'),
    ("chdir", 'C')], false⟩ 125 (fun g s =>
    let (plain, operands) := match g.operands with
      | ['-'] :: rest => (true, rest)
      | operands => (g.has 'i', operands)
    let s := if plain then { s with bindings := [] } else s
    let s := (g.values 'u').foldl Shell.discard s
    let assigned := operands.takeWhile fun a => a.contains '='
    let words := operands.drop assigned.length
    let s := assigned.foldl (fun s a =>
      let (name, value?) := splitAssignment a
      s.setVariable name ⟨some (value?.getD []), true, false⟩) s
    let entered := match g.value? 'C' with
      | some path => (s.files.enter (Shell.pathOf path)).map fun files => { s with files := files }
      | none => .ok s
    match entered with
    | .error e => blame "env" ("cannot change directory to ".toList ++
        quotedName ((g.value? 'C').getD []) ++ ": ".toList ++ Shell.reason e) 125 s
    | .ok s =>
      if words.isEmpty then s.say (environmentText (if g.has '0' then Char.ofNat 0 else '\n') s)
      else
        runInstead spawn (fun name => "env: ".toList ++ quotedName name) words s) args s

def printEnvironment : Utility :=
  withOptions "printenv" ⟨"0", "", [("null", '0')], true⟩ 2 fun g s =>
    let ending := if g.has '0' then Char.ofNat 0 else '\n'
    if g.operands.isEmpty then s.say (environmentText ending s)
    else
      g.operands.foldl (fun s name =>
        match (s.lookUp? name).bind fun v => if v.isExported then v.value else none with
        | some value => s.put (value ++ [ending])
        | none => s.answer 1) (s.answer 0)

/-! ### Arguments from the input -/

/-- What is wrong with the arguments in a text. -/
inductive QuoteFault where
  | single
  | double

/-- The arguments in a text, between blanks that are not in quotes or after a backslash; with lines,
only newlines count. The remark whether an argument ends its line stands beside it. -/
def wordsFrom (byLine : Bool) (word : Option Chars) :
    (fuel : Nat) → Chars → Except QuoteFault (List (Chars × Bool))
  | 0, _ => .ok (word.map fun w => (w.reverse, true)).toList
  | _, [] => .ok (word.map fun w => (w.reverse, true)).toList
  | fuel + 1, c :: rest =>
    let close (ends : Bool) : Except QuoteFault (List (Chars × Bool)) := do
      let more ← wordsFrom byLine none fuel rest
      return (word.map fun w => (w.reverse, ends)).toList ++ more
    if c = '\n' then close true
    else if isBlank c && word.isNone then wordsFrom byLine none fuel rest
    else if isSpace c && !byLine then
      close ((rest.dropWhile isBlank).head? = some '\n')
    else if c = '\\' then
      match rest with
      | d :: rest => wordsFrom byLine (some (d :: word.getD [])) fuel rest
      | [] => close true
    else if c = '\'' || c = '"' then
      let inside := rest.takeWhile fun d => d != c && d != '\n'
      match rest.drop inside.length with
      | d :: after =>
        if d = c then wordsFrom byLine (some (inside.reverse ++ word.getD [])) fuel after
        else .error (if c = '"' then .double else .single)
      | [] => .error (if c = '"' then .double else .single)
    else wordsFrom byLine (some (c :: word.getD [])) fuel rest

/-- Items in groups of a size. -/
def inGroups (size : Nat) (items : List Chars) : (fuel : Nat) → List (List Chars)
  | 0 => []
  | fuel + 1 =>
    if items.isEmpty then [] else items.take size :: inGroups size (items.drop size) fuel

/-- Items in groups of some lines. -/
def inLines (count : Nat) (found : List Chars) (lines : Nat) :
    List (Chars × Bool) → List (List Chars)
  | [] => if found.isEmpty then [] else [found]
  | (item, ends) :: rest =>
    let found := found ++ [item]
    let lines := if ends then lines + 1 else lines
    if count ≤ lines then found :: inLines count [] 0 rest else inLines count found lines rest

/-- A text with another in the place of each part that is like a third. -/
def replaced (old new : Chars) : (fuel : Nat) → Chars → Chars
  | 0, cs => cs
  | _, [] => []
  | fuel + 1, c :: rest =>
    if old.isPrefixOf (c :: rest) then new ++ replaced old new fuel ((c :: rest).drop old.length)
    else c :: replaced old new fuel rest

/-- Runs commands one after another until one of them ends all. -/
def runEachCommand (spawn : Spawn) (shows : Bool) : List (List Chars) → Shell → Shell
  | [], s => s
  | words :: rest, s =>
    let s := if shows then s.write 2 ([' '].intercalate words ++ ['\n']) else s
    let name := words.headD []
    match spawn words (s.connect 0 .nowhere) with
    | .error e => s.cannotRun ("xargs: ".toList ++ name) e
    | .ok (t, status) =>
      let t := { t with descriptors := s.descriptors }
      match status with
      | .exited 0 => runEachCommand spawn shows rest (t.answer s.status)
      | .exited 255 =>
        blame "xargs" (name ++ ": exited with status 255; aborting".toList) 124 t
      | .exited _ => runEachCommand spawn shows rest (t.answer 123)
      | .killed n =>
        blame "xargs" (name ++ ": terminated by signal ".toList ++ natText n) 125 t

def runForItems (spawn : Spawn) : Utility :=
  withOptions "xargs" ⟨"0rtxpo", "nIdLPsaEi", [("null", '0'), ("no-run-if-empty", 'r'),
    ("verbose", 't'), ("max-args", 'n'), ("replace", 'I'), ("delimiter", 'd'), ("max-lines", 'L'),
    ("max-procs", 'P'), ("arg-file", 'a')], false⟩ 1 fun g s =>
    let (text, s) := match g.value? 'a' with
      | some path => match s.readFile path with
        | .ok (text, s) => (text, s)
        | .error _ => ([], s)
      | none => s.readStdin
    let delimiter? : Option Char :=
      if g.has '0' then some (Char.ofNat 0)
      else match g.value? 'd' with
        | some ['\\', 'n'] => some '\n'
        | some ['\\', 't'] => some '\t'
        | some ['\\', '0'] => some (Char.ofNat 0)
        | some (c :: _) => some c
        | _ => none
    let items? : Except QuoteFault (List (Chars × Bool)) := match delimiter? with
      | some c =>
        let parts := text.splitOn c
        .ok ((if parts.getLast? = some [] then parts.dropLast else parts).map fun p => (p, true))
      | none => wordsFrom (g.has 'I') none (text.length + 1) text
    let count (letter : Char) : Option Nat := (g.value? letter).map (natOf 10)
    match items?, (g.value? 'n').filter fun n => natOf 10 n = 0 with
    | _, some n =>
      pointToHelp "xargs" 1 (blame "xargs"
        ("value ".toList ++ n ++ " for -n option should be >= 1".toList) 1 s)
    | .error fault, none =>
      let kind := match fault with
        | .single => "single"
        | .double => "double"
      blame "xargs" ("unmatched ".toList ++ kind.toList ++ (" quote; by default quotes are " ++
        "special to xargs unless you use the -0 option").toList) 1 s
    | .ok items, none =>
      let command := if g.operands.isEmpty then ["echo".toList] else g.operands
      let words := items.map (·.1)
      let last? := g.last? "nIL"
      let commands := match last?, g.value? 'I', count 'n', count 'L' with
        | some 'I', some mark, _, _ =>
          words.map fun item => command.map fun word =>
            replaced mark item (word.length + 1) word
        | some 'n', some mark, some 1, _ =>
          words.map fun item => command.map fun word =>
            replaced mark item (word.length + 1) word
        | some 'n', _, some n, _ => (inGroups n words words.length).map (command ++ ·)
        | some 'L', _, _, some n => (inLines n [] 0 items).map (command ++ ·)
        | _, _, _, _ => if items.isEmpty then [] else [command ++ words]
      let commands := if commands.isEmpty && !g.has 'r' && !g.has 'I' && items.isEmpty
        then [command] else commands
      runEachCommand spawn (g.has 't') commands (s.answer 0)

/-! ### Time -/

/-- The milliseconds that a text stands for: a number with a unit of time. -/
def millisecondsOf? (cs : Chars) : Option Nat :=
  let whole := cs.takeWhile Char.isDigit
  let rest := cs.drop whole.length
  let (fraction, rest) := match rest with
    | '.' :: ds => (ds.takeWhile Char.isDigit, ds.drop (ds.takeWhile Char.isDigit).length)
    | _ => ([], rest)
  let unit? : Option Nat := match String.ofList rest with
    | "" => some 1
    | "s" => some 1
    | "m" => some 60
    | "h" => some 3600
    | "d" => some 86400
    | _ => none
  if cs = "infinity".toList || cs = "inf".toList then some 1000000000000
  else if whole.isEmpty && fraction.isEmpty then none
  else unit?.map fun unit =>
    natOf 10 (whole ++ fraction) * unit * 1000 / Nat.pow 10 fraction.length

def sleepFor : Utility :=
  withOptions "sleep" ⟨"", "", [], true⟩ 1 fun g s =>
    match g.operands, g.operands.filter fun a => (millisecondsOf? a).isNone with
    | [], _ => missingOperand "sleep" 1 s
    | _, [] =>
      let total := (g.operands.filterMap millisecondsOf?).foldl (· + ·) 0
      (s.rest total).answer 0
    | _, bad =>
      pointToHelp "sleep" 1 (bad.foldl (fun s a =>
        blame "sleep" ("invalid time interval ".toList ++ quotedName a) 1 s) s)

/-- Cuts off what happened after some time. -/
def Shell.cutAt (s : Shell) (time : Nat) (first : Nat) : Shell :=
  { s with
    moments := s.moments.filter fun m => m.time ≤ time || m.process < first
    clock := time }

def runWithin (spawn : Spawn) : Utility :=
  withOptions "timeout" ⟨"fv", "sk", [("signal", 's'), ("kill-after", 'k'), ("foreground", 'f'),
    ("preserve-status", 'p'), ("verbose", 'v')], false⟩ 125 fun g s =>
    match g.operands with
    | limit :: word :: words =>
      match millisecondsOf? limit with
      | none =>
        pointToHelp "timeout" 125
          (blame "timeout" ("invalid time interval ".toList ++ quotedName limit) 125 s)
      | some limit =>
        let first := s.processes + 1
        match spawn (word :: words) s with
        | .error e => s.cannotRun (failedToRun "timeout" word) e
        | .ok (t, status) =>
          if limit != 0 && s.clock + limit < t.clock then
            let t := t.cutAt (s.clock + limit) first
            let signal := ((g.value? 's').bind Signal.ofText?).getD 15
            if signal = 9 then t.finish (.killed 9)
            else t.answer (if g.has 'p' then 128 + signal else 124)
          else match status with
            | .killed n => t.answer (128 + n)
            | .exited code => t.answer code
    | _ => pointToHelp "timeout" 125 s

/-! ### Other circumstances -/

def runOnward (spawn : Spawn) : Utility :=
  withOptions "nohup" ⟨"", "", [], false⟩ 125 fun g s =>
    if g.operands.isEmpty then missingOperand "nohup" 125 s
    else runInstead spawn (failedToRun "nohup") g.operands s

def runNicely (spawn : Spawn) : Utility := fun args s =>
  let args := match args with
    | ('-' :: c :: cs) :: rest => if c.isDigit then ['-', 'n'] :: (c :: cs) :: rest else args
    | _ => args
  withOptions "nice" ⟨"", "n", [("adjustment", 'n')], false⟩ 125 (fun g s =>
    if g.operands.isEmpty then s.say "0\n".toList
    else runInstead spawn (fun name => "nice: ".toList ++ quotedName name) g.operands s) args s

def runBuffered (spawn : Spawn) : Utility :=
  withOptions "stdbuf" ⟨"", "ioe", [("input", 'i'), ("output", 'o'), ("error", 'e')], false⟩ 125
    fun g s =>
    if g.operands.isEmpty then missingOperand "stdbuf" 125 s
    else if g.options.isEmpty then
      pointToHelp "stdbuf" 125
        (blame "stdbuf" "you must specify a buffering mode option".toList 125 s)
    else runInstead spawn (failedToRun "stdbuf") g.operands s

def runDetached (spawn : Spawn) : Utility :=
  withOptions "setsid" ⟨"cfw", "", [("ctty", 'c'), ("fork", 'f'), ("wait", 'w')], false⟩ 1
    fun g s =>
    if g.operands.isEmpty then
      s.complain "setsid: no command specified".toList 1
    else runInstead spawn (fun name => "setsid: failed to execute ".toList ++ name) g.operands s

end PxeLaunch.Script

import PxeLaunch.Script.Builtin
import PxeLaunch.Script.Reader
import PxeLaunch.Script.Redirection
import PxeLaunch.Script.Utility.Table

/-!
The execution of scripts. Commands run on a number of steps; a script that takes more of them than
there are is ended like one that nobody listens to.
-/

set_option autoImplicit false

namespace PxeLaunch.Script

/-! ### Lines of scripts -/

/-- Shows the lines of a script as they are read, if that is asked for. -/
def showRead (before after : Source) (s : Shell) : Shell :=
  if s.has 'v' then s.write 2 (before.rest.take (before.rest.length - after.rest.length)) else s

/-- Runs a script line by line, and says whether there was a command in it. A line is read only
after those before it have been run. -/
def runLines (run : Runner) (found : Bool) : (fuel : Nat) → Source → Shell → Shell × Bool
  | 0, _, s => (s, found)
  | fuel + 1, source, s =>
    if !s.goesOn then (s, found)
    else match readLine source with
      | .error e =>
        ({ s with line := e.line }.fail ("Syntax error: " ++ e.flaw.message).toList, true)
      | .ok (none, _) => (s, found)
      | .ok (some (.sequence []), next) => runLines run found fuel next (showRead source next s)
      | .ok (some t, next) =>
        let s := { showRead source next s with lineRead := next.line }
        runLines run true fuel next (if s.has 'n' then s else run t s)

def runText (run : Runner) (script : Chars) (s : Shell) : Shell × Bool :=
  runLines run false (script.length + 2) (.ofText script) s

/-- Runs a script inside another one. A script without commands is a success. -/
def runInside (run : Runner) (script : Chars) (s : Shell) : Shell :=
  let (t, found) := runText run script s
  { if found then t else t.answer 0 with lineRead := s.lineRead }

/-! ### Signals and the end -/

/-- Runs the answer to a signal, which leaves the status as it was. -/
def runTrap (run : Runner) (action : Chars) (s : Shell) : Shell :=
  let t := runInside run action { s with trapStatus := some s.status }
  if t.goesOn then { t.answer s.status with trapStatus := s.trapStatus } else t

/-- Answers the signals that were sent to a process. -/
def answerSignals (run : Runner) (s : Shell) : Shell :=
  let mine := s.signals.filter (·.1 = s.process)
  if mine.isEmpty then s
  else
    mine.foldl (fun s (_, n) =>
      if !s.goesOn then s
      else match if Signal.isFinal n then none else s.trap? n with
        | some action => if action.isEmpty then s else runTrap run action s
        | none => if Signal.isHarmless n then s else s.finish (.killed n))
      { s with signals := s.signals.filter (·.1 != s.process) }

/-- Ends a process: what it is to do at its end is done, unless it was killed. -/
def endProcess (run : Runner) (s : Shell) : Shell :=
  let status := s.ending
  match status with
  | .killed _ => s
  | .exited code =>
    match s.trap? 0 with
    | none => s.finish status
    | some action =>
      let t := runInside run action
        { s with
          jump := .onward
          status := code
          trapStatus := some code
          traps := s.traps.filter (·.1 != 0) }
      match t.jump with
      | .ended _ => t
      | .failed => t.finish (.exited t.status)
      | _ => t.finish status

/-- Runs something as a process of its own. -/
def runApart (run : Runner) (f : Shell → Shell) (s : Shell) : Shell :=
  s.waitedFor (endProcess run (f s.fork))

/-! ### What a script shows -/

/-- What a script shows when it is run on its own. -/
def collectOutput (run : Runner) : Collector := fun t s =>
  let place := s.streams.size
  let u := runApart run (run t) (s.connect 1 (.sink []))
  let shown := (u.streams[place]?.map Stream.written).getD []
  let u := { u with streams := u.streams.take place, descriptors := s.descriptors }
  ({ u.answer s.status with outputStatus := some u.status },
    Chars.ofBytes (shown.flatMap (·.2)))

/-! ### Programs -/

/-- The variables that a new process knows. It may assign also those that were fixed. -/
def environment (s : Shell) : List (Chars × Variable) :=
  (s.bindings.filter fun (_, v) => v.isExported && v.value.isSome).map fun (name, v) =>
    (name, { v with isFixed := false })

/-- A script that starts in a process. -/
def freshScript (name : Chars) (args : List Chars) (s : Shell) : Shell :=
  let known := environment s
  let others := Shell.firstVariables.filter fun (name, v) =>
    !v.isExported && !(known.any (·.1 = name) && name != "IFS".toList)
  let parent := ("PPID".toList, ⟨some (natText (s.ancestors.headD 1)), false, false⟩)
  { s with
    name := name, script := s.process, line := 1, lineRead := 1, caller := none, arguments := args
    optionPlace := ⟨1, none⟩
    bindings := parent :: others ++ known.filter (·.1 != "IFS".toList)
    locals := none, functions := [], traps := s.traps.filter fun (_, action) => action.isEmpty
    trapStatus := none, options := [], lastJob := none, status := 0, outputStatus := none
    jump := .onward, guarded := false, loops := 0 }

/-- The options at the front of the arguments of a shell: whether the next argument is a script,
and whether the script is the input. -/
structure ShellOptions where
  isText : Bool
  isInput : Bool
  rest : List Chars

/-- Reads the options of a shell. -/
def shellOptions (o : ShellOptions) : (fuel : Nat) → Shell → Shell × ShellOptions
  | 0, s => (s, o)
  | fuel + 1, s =>
    match o.rest with
    | [] => (s, o)
    | arg :: rest =>
      if arg = ['-'] || arg = ['-', '-'] then (s, { o with rest := rest })
      else match arg with
        | sign :: letters =>
          if (sign = '-' || sign = '+') && !letters.isEmpty then
            let isText := sign = '-' && letters.contains 'c'
            let isInput := sign = '-' && letters.contains 's'
            let plain := letters.filter fun c => c != 'c' && c != 's' && c != 'l' && c != 'i'
            let (s, rest) := switchLetters (sign = '-') s rest plain
            if !s.goesOn then (s, o)
            else shellOptions ⟨o.isText || isText, o.isInput || isInput, rest⟩ fuel s
          else (s, o)
        | [] => (s, o)

/-- Runs a script that is named by arguments, stands in them, or is the input. -/
def runShell (run : Runner) (shown : Chars) (args : List Chars) (s : Shell) : Shell :=
  let start := { freshScript shown [] s with line := 0 }
  let (s, o) := shellOptions ⟨false, false, args⟩ (args.length + 1) start
  let whole (name : Chars) (args : List Chars) (script : Chars) (s : Shell) : Shell :=
    endProcess run
      (runText run script { s with name := name, arguments := args, line := 1 }).1
  if !s.goesOn then endProcess run s
  else match o.isText, o.isInput, o.rest with
    | true, _, script :: rest => whole (rest.headD shown) (rest.drop 1) script s
    | true, _, [] => endProcess run (s.fail "-c requires an argument".toList)
    | false, false, path :: rest =>
      match s.readFile path with
      | .ok (script, s) => whole path rest script s
      | .error .isDirectory => whole path rest [] s
      | .error e => endProcess run (s.fail (refusalToOpen false path e))
    | false, _, rest =>
      let (script, s) := s.readStdin
      whole shown rest script s

/-- Runs a task as the process that has been made for it. -/
def runTask (run : Runner) (spawn : Spawn) (t : Task) (s : Shell) : Shell :=
  if ["sh", "dash", "bash"].contains t.program then runShell run t.shownName t.args s
  else
    let s := { s with
      caller := none, jump := .onward, locals := none, trapStatus := none
      traps := s.traps.filter fun (_, action) => action.isEmpty
      bindings := environment s }
    match launcher? t.program, utility? t.program with
    | some u, _ => answerSignals run (u spawn t.args s)
    | none, some u => answerSignals run (u t.args s)
    | none, none => s.finish (.exited 127)

/-- The task behind a name. A file that names no interpreter is a script. -/
def taskFor (name : Chars) (args : List Chars) (s : Shell) : Except Failure Task :=
  match s.locate? name with
  | none => .error .notFound
  | some path =>
    match taskOf s.files path args with
    | .error .notExecutable => .ok ⟨"sh", name, path :: args⟩
    | result => result

/-- Runs programs as processes, which can run others, up to some depth. -/
def spawnTo (run : Runner) : (depth : Nat) → Spawn
  | 0, _, _ => .error .notFound
  | _, [], _ => .error .notFound
  | depth + 1, name :: args, s => do
    let task ← taskFor name args s
    let t := runTask run (spawnTo run depth) task s.fork
    return (s.joined t, t.ending)

/-- How deep programs may run one another. -/
def spawnDepth : Nat := 16

/-- Complains that a program cannot be run. -/
def refuseProgram (name : Chars) (e : Failure) (s : Shell) : Shell :=
  if name.isEmpty then s.complainHere ": Permission denied".toList 127
  else if e = .notFound || e = .notDirectory then
    s.complainHere (name ++ ": not found".toList) 127
  else s.complainHere (name ++ ": ".toList ++ Shell.reason e) 126

/-- Runs a program as a command of a script. -/
def runProgram (run : Runner) (name : Chars) (args : List Chars) (s : Shell) : Shell :=
  match taskFor name args s with
  | .ok task => s.waitedFor (runTask run (spawnTo run spawnDepth) task s.fork)
  | .error e => refuseProgram name e s

/-! ### Simple commands -/

/-- Runs something with local variables of its own. -/
def inOwnScope (f : Shell → Shell) (s : Shell) : Shell :=
  let t := f { s with locals := some [] }
  { t.restore (t.locals.getD []) with locals := s.locals }

/-- Runs the body of a function, with its own arguments and variables. -/
def callFunction (run : Runner) (body : Tree) (args : List Chars) (s : Shell) : Shell :=
  let t := inOwnScope (run body)
    { s with arguments := args, loops := 0, optionPlace := ⟨1, none⟩ }
  { t with
    arguments := s.arguments, loops := s.loops, optionPlace := s.optionPlace
    jump := if t.jump = .returns then .onward else t.jump }

/-- Runs the commands of a file in the script. A name without a slash is looked for where programs
are. -/
def includeFile (run : Runner) (args : List Chars) (s : Shell) : Shell :=
  match if args.head? = some ['-', '-'] then args.drop 1 else args with
  | [] => s.answer 0
  | name :: _ =>
    match s.locate? name with
    | none => s.fail (name ++ ": not found".toList)
    | some path =>
      let start (s : Shell) : Shell := { s with caller := some path }
      let finish (t : Shell) : Shell :=
        { t with jump := if t.jump = .returns then .onward else t.jump }
      match s.readFile path with
      | .ok (script, s) => finish (runInside run script (start s))
      | .error .isDirectory => s.answer 0
      | .error e => s.fail (refusalToOpen false path e)

/-- Puts a program into the place of the script. -/
def becomeProgram (run : Runner) (args : List Chars) (s : Shell) : Shell :=
  let args := match args with
    | ['-', 'a'] :: _ :: rest => rest
    | ['-', '-'] :: rest => rest
    | _ => args
  match args with
  | [] => s
  | name :: rest =>
    match taskFor name rest s with
    | .ok task =>
      let t := runTask run (spawnTo run spawnDepth) task s
      { s.joined t with traps := [] }.finish t.ending
    | .error e =>
      let s := refuseProgram name e s
      s.finish (.exited s.status)

/-- Runs a command of the script itself in its own name. One that is not special may fail. -/
def runNamed (special : Bool) (name : Chars) (f : Shell → Shell) (s : Shell) : Shell :=
  let t := f { s with caller := some name }
  { t with caller := s.caller, jump := if t.jump = .failed && !special then .onward else t.jump }

/-- The words of a command that functions do not count for, or nothing if something is asked about
it. -/
def plainWords? : List Chars → Option (List Chars)
  | ['-', 'p'] :: rest => plainWords? rest
  | ['-', '-'] :: rest => some rest
  | ('-' :: _ :: _) :: _ => none
  | words => some words

/-- Says what the name of a command means. -/
def tellCommand : Utility :=
  withLetters "pvV" "" fun g s =>
    if g.has 'v' then tellMeanings false (g.operands.take 1) s
    else if g.has 'V' then tellMeanings true (g.operands.take 1) s
    else s.answer 0

/-- Runs a command by its name, which is not that of a function. -/
def perform (run : Runner) (special : Bool) : (depth : Nat) → List Chars → Shell → Shell
  | 0, _, s => s
  | _, [], s => s.answer 0
  | depth + 1, name :: args, s =>
    match builtin? name with
    | some (.utility u) => runNamed special name (u args) s
    | some (.control .evaluates) =>
      if args.isEmpty then s.answer 0
      else runNamed special name (runInside run ([' '].intercalate args)) s
    | some (.control .includes) => runNamed special name (includeFile run args) s
    | some (.control .becomes) => runNamed special name (becomeProgram run args) s
    | some (.control .commands) =>
      match plainWords? args with
      | some words => inOwnScope (perform run false depth words) s
      | none => runNamed false name (tellCommand args) s
    | none => runProgram run name args s

/-- The name of the command that fields make up, if they have come to it. -/
def commandName? (fields : List Chars) : Option Chars :=
  match fields with
  | [] => none
  | first :: rest =>
    if first != "command".toList then some first
    else rest.find? fun word => word != first && word != ['-', 'p'] && word != ['-', '-']

/-- Expands the words of a command. What is assigned by arguments of some commands is not cut. -/
def expandCommand (collect : Collector) (s : Shell) (words : List Word) : Shell × List Chars :=
  words.foldl (fun (s, fields) w =>
    if !s.goesOn then (s, fields)
    else
      let declares := (commandName? fields).any isDeclaration
      match if declares then assignment? w else none with
      | some (name, value) =>
        let (s, text) := expandText collect true s value
        (s, fields ++ [name ++ '=' :: text])
      | none =>
        let (s, more) := expandWord collect s w
        (s, fields ++ more)) (s, [])

/-- Assigns the values of expanded words, and shows how. -/
def assignAll (collect : Collector) (exports : Bool) (assigned : List (Chars × Word)) (s : Shell) :
    Shell × List Chars :=
  assigned.foldl (fun (s, shown) (name, w) =>
    if !s.goesOn then (s, shown)
    else
      let (s, value) := expandText collect true s w
      if !s.goesOn then (s, shown)
      else
        let s := s.tryAssign name value
        let mark (v : Variable) : Variable := { v with isExported := v.isExported || exports }
        let s := match s.lookUp? name with
          | some v => s.setVariable name (mark v)
          | none => s
        (s, shown ++ [name ++ '=' :: value])) (s, [])

/-- Shows a command before it is run, if that is asked for. -/
def trace (words : List Chars) (place? : Option Nat) (s : Shell) : Shell :=
  if !s.has 'x' then s
  else
    let text := s.value "PS4".toList ++ [' '].intercalate words ++ ['\n']
    match place? with
    | some place =>
      let t := (s.lead 2 place).write 2 text
      { t with descriptors := s.descriptors }
    | none => s

/-- Runs a simple command. What is assigned for it is forgotten afterwards, unless there is nothing
else to it or it is a special one. -/
def runSimple (run : Runner) (line : Nat) (assigned : List (Chars × Word)) (words : List Word)
    (redirects : List Redirect) (s : Shell) : Shell :=
  let collect := collectOutput run
  let (s, fields) := expandCommand collect { s with line := line, outputStatus := none } words
  if !s.goesOn then s
  else
    let body? := fields.head?.bind fun name => s.functions.lookup name
    let special := body?.isNone && fields.head?.any isSpecialName
    let becomes := body?.isNone && fields.head? = some "exec".toList
    let (t, targets) := targetsOf collect redirects s
    let (t, opened) := if t.goesOn then followAll collect targets t else (t, true)
    if !t.goesOn then t
    else if !opened then
      let u := restored targets s t
      if special then { u with jump := .failed } else u
    else
      let stays := fields.isEmpty || special
      let old := (assigned.map fun (name, _) => (name, t.lookUp? name)).reverse
      let (u, shown) := assignAll collect (!stays || becomes) assigned t
      if !u.goesOn then restored targets s u
      else
        let u := trace (shown ++ fields) (s.place? 2) u
        let u := match body?, fields with
          | some body, _ :: args => callFunction run body args u
          | _, [] => u.answer (u.outputStatus.getD 0)
          | _, _ => perform run special (fields.length + 1) fields u
        let u := if stays then u else u.restore old
        if becomes && fields.length = 1 then u else restored targets s u

/-! ### Commands of several parts -/

/-- Runs something whose failure does not end a strict script. -/
def guarded (f : Shell → Shell) (s : Shell) : Shell :=
  { f { s with guarded := true } with guarded := s.guarded }

/-- Ends a strict script after a command that failed without being guarded. -/
def settled (s : Shell) : Shell :=
  if s.has 'e' && !s.guarded && s.status != 0 && s.goesOn then s.finish (.exited s.status) else s

/-- Runs the stages of a pipeline as processes, each fed by the one before it. They all start at the
same time, and the last one gives the status. -/
def runStages (run : Runner) (start : Nat) : List Tree → Option Stream → Shell → Shell
  | [], _, s => s
  | stage :: rest, feed?, s =>
    let child := { s.fork with clock := start }
    let child := match feed? with
      | some feed => child.connect 0 feed
      | none => child
    let place := child.streams.size
    let child := if rest.isEmpty then child else child.connect 1 (.sink [])
    let t := endProcess run (run stage child)
    let written := (t.streams[place]?.map Stream.written).getD []
    let next := s.waitedFor t
    runStages run start rest (some (.feed written t.clock)) (next.waitUntil s.clock)

/-- Runs a command in the background, where it has no input of the script. -/
def runBehind (run : Runner) (t : Tree) (s : Shell) : Shell :=
  let child := { s.fork with guarded := false }.connect 0 .nowhere
  let u := endProcess run (run t child)
  let holds := child.descriptors.any fun (_, place) => match child.streams[place]? with
    | some (.console _) => true
    | _ => false
  let job : Job := ⟨child.process, u.processes, u.clock, u.ending⟩
  { s.joined u with
    clock := s.clock
    latest := if holds then max u.latest u.clock else u.latest
    jobs := job :: s.jobs
    lastJob := some child.process }.answer 0

/-- What a loop does after its body: another round, or the state in which it is left. -/
def afterBody (s : Shell) : Shell × Bool :=
  match s.jump with
  | .onward => (s, true)
  | .breaks n => ({ s with jump := if n ≤ 1 then .onward else .breaks (n - 1) }, false)
  | .continues n => if n ≤ 1 then ({ s with jump := .onward }, true)
    else ({ s with jump := .continues (n - 1) }, false)
  | _ => (s, false)

/-- Runs something inside a loop. -/
def looping (f : Shell → Shell) (s : Shell) : Shell :=
  { f { s with loops := s.loops + 1 } with loops := s.loops }

/-- Ends a script that takes too many steps. -/
def exhausted (s : Shell) : Shell := s.finish (.killed 13)

/-- Runs the body of a loop as long as a condition asks for it. The status is that of the last
round. -/
def runLoop (run : Runner) (stopsAt : Bool) (condition body : Tree) :
    (fuel : Nat) → (last : Nat) → Shell → Shell
  | 0, _, s => exhausted s
  | fuel + 1, last, s =>
    let asked := guarded (run condition) s
    match afterBody asked with
    | (s, false) => s
    | (s, true) =>
      if !asked.goesOn then runLoop run stopsAt condition body fuel last s
      else if (s.status = 0) = stopsAt then s.answer last
      else match afterBody (run body s) with
        | (s, true) => runLoop run stopsAt condition body fuel s.status s
        | (s, false) => s

/-- Runs the body of a loop for each of some words. -/
def runEach (run : Runner) (name : Chars) (body : Tree) : List Chars → Shell → Shell
  | [], s => s
  | word :: rest, s =>
    let s := s.tryAssign name word
    if !s.goesOn then s
    else match afterBody (run body s) with
      | (s, true) => runEach run name body rest s
      | (s, false) => s

/-- Whether a text fits one of some patterns. -/
def fitsSome (collect : Collector) (text : Chars) : List Word → Shell → Shell × Bool
  | [], s => (s, false)
  | w :: rest, s =>
    let (s, marked) := expandMarked collect false s w
    if !s.goesOn then (s, false)
    else if (Pattern.ofMarked marked).fits text then (s, true)
    else fitsSome collect text rest s

/-- The arm whose pattern a text fits. -/
def chosenArm (collect : Collector) (text : Chars) :
    List (List Word × Tree) → Shell → Shell × Option Tree
  | [], s => (s, none)
  | (patterns, body) :: rest, s =>
    let (s, fits) := fitsSome collect text patterns s
    if !s.goesOn then (s, none)
    else if fits then (s, some body)
    else chosenArm collect text rest s

/-- Runs the arm that a word chooses. An arm without commands leaves the status as it is after a
success. -/
def runCases (run : Runner) (word : Word) (arms : List (List Word × Tree)) (s : Shell) : Shell :=
  let collect := collectOutput run
  let (s, text) := expandText collect false s word
  if !s.goesOn then s
  else match chosenArm collect text arms s with
    | (s, some (.sequence [])) => s.answer 0
    | (s, some body) => run body s
    | (s, none) => if s.goesOn then s.answer 0 else s

/-- Runs something under redirections. -/
def runRedirected (run : Runner) (redirects : List Redirect) (f : Shell → Shell) (s : Shell) :
    Shell :=
  let (t, targets) := targetsOf (collectOutput run) redirects s
  if !t.goesOn then t
  else
    let (t, opened) := followAll (collectOutput run) targets t
    restored targets s (if opened then f t else t)

/-- Runs something as a process of its own under redirections. -/
def runSubshell (run : Runner) (redirects : List Redirect) (f : Shell → Shell) (s : Shell) :
    Shell :=
  let (t, targets) := targetsOf (collectOutput run) redirects s
  if !t.goesOn then t
  else runApart run (fun child =>
    let (child, opened) := followAll (collectOutput run) targets child
    if opened then f child else { child with jump := .failed }) t

/-- Runs a command. -/
def runTree (run : Runner) (fuel : Nat) : Runner
  | .simple line assigned words redirects, s =>
    settled (runSimple run line assigned words redirects s)
  | .pipeline stages, s => settled (runStages run s.clock stages none s)
  | .negated t, s =>
    let s := guarded (run t) s
    if s.goesOn then s.answer (if s.status = 0 then 1 else 0) else s
  | .both a b, s =>
    let s := guarded (run a) s
    if s.status = 0 && s.goesOn then run b s else s
  | .either a b, s =>
    let s := guarded (run a) s
    if s.status = 0 || !s.goesOn then s else run b s
  | .sequence ts, s => ts.foldl (fun s t => run t s) s
  | .background line t, s => runBehind run t { s with line := line }
  | .loop stopsAt condition body, s => looping (runLoop run stopsAt condition body fuel 0) s
  | .choice condition yes no, s =>
    let s := guarded (run condition) s
    if !s.goesOn then s
    else if s.status = 0 then run yes s
    else match no with
      | .sequence [] => s.answer 0
      | no => run no s
  | .each line name words body, s =>
    let (s, fields) := expandWords (collectOutput run) { s with line := line } words
    if !s.goesOn then s
    else if fields.isEmpty then s.answer 0
    else looping (runEach run name body fields) s
  | .cases line word arms, s => runCases run word arms { s with line := line }
  | .subshell line t redirects, s =>
    settled (runSubshell run redirects (run t) { s with line := line })
  | .redirected line t redirects, s => runRedirected run redirects (run t) { s with line := line }
  | .definition _ name body, s =>
    { s with functions := (name, body) :: s.functions.filter (·.1 != name) }.answer 0

/-- Runs a command with a number of steps. -/
def run : (fuel : Nat) → Runner
  | 0, _, s => exhausted s
  | fuel + 1, t, s =>
    if s.goesOn then answerSignals (run fuel) (runTree (run fuel) fuel t s) else s

/-! ### Processes -/

/-- The number of steps that a script may take one inside or after another. -/
def steps : Nat := 50000

/-- Folders that every machine has. -/
def machineFolders : List Key :=
  [["bin"], ["dev"], ["etc"], ["home"], ["root"], ["tmp"], ["usr"], ["usr", "bin"], ["var"]].map
    fun names => names.map Bytes.ofString

/-- The files with the folders that every machine has. -/
def withMachineFolders (files : Files) : Files :=
  machineFolders.foldl (fun files key =>
    if (files.entry? key).isSome then files
    else { files with entries := files.entries ++ [(key, .folder)] }) files

/-- The files without those folders, if they are as they were. -/
def withoutMachineFolders (old files : Files) : Files :=
  let isNew (key : Key) : Bool := machineFolders.contains key && (old.entry? key).isNone
  let isUsed (key : Key) : Bool := files.entries.any fun (k, _) =>
    key.isPrefixOf k && !isNew k
  { files with
    here := old.here
    entries := files.entries.filter fun (k, _) => !isNew k || isUsed k }

/-- Runs a command as a process. -/
def execute (files : Files) (c : Command) : Except Failure Run := do
  let words := c.program.bytes :: c.args ++ (c.directory.map (·.bytes)).toList
  if words.any (·.contains 0) then .error .zeroInWord
  let inside ← match c.directory with
    | some d => files.enter d
    | none => pure files
  let program := Chars.ofBytes c.program.bytes
  let args := c.args.map Chars.ofBytes
  let s := Shell.start (withMachineFolders inside) program args c.stdin
  let path ← match s.locate? program with
    | some path => pure path
    | none => throw (if Files.maxName < program.length then .nameTooLong else .notFound)
  let task ← taskOf s.files path args
  let runner := run steps
  let t := runTask runner (spawnTo runner spawnDepth) task s
  return ⟨t.activities, t.ending, withoutMachineFolders files t.files⟩

end PxeLaunch.Script

namespace PxeLaunch

/-- A machine on which only scripts and the utilities that they use can be run. -/
def Host.ofScripts (architecture : Option Architecture) : Host :=
  ⟨architecture, Script.execute⟩

end PxeLaunch

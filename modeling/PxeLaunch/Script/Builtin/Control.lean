import PxeLaunch.Script.Builtin.Variables
import PxeLaunch.Script.Format
import PxeLaunch.Script.Process

/-!
Commands that a script is run with: those that show texts, change the folder, leave loops, functions
and the script, and deal with signals and processes.
-/

set_option autoImplicit false

namespace PxeLaunch.Script

/-! ### Showing -/

/-- Complains if nothing can be shown. -/
def whenOpen (s : Shell) (f : Shell → Shell) : Shell :=
  if s.canWrite 1 then f s
  else
    let caller := s.caller.getD []
    s.complainHere (caller ++ ": I/O error".toList) 1

def echo : Utility := fun args s => whenOpen s fun s => s.say (echoText args)

/-- Complains about the faults of a format one after another. -/
def showFaults (s : Shell) (faults : List FormatFault) : Shell :=
  faults.foldl (fun s fault =>
    if fault.isFatal then s.fail fault.message
    else s.complainHere fault.message (max s.status 1)) s

def printFormat : Utility := fun args s =>
  let ended := args.head? = some ['-', '-']
  match if ended then args.drop 1 else args with
  | [] => s.fail "usage: printf format [arg ...]".toList
  | format :: rest =>
    match if ended then [] else format with
    | '-' :: c :: _ => s.fail ("Illegal option -".toList ++ [c])
    | _ =>
      let (shown, faults) := formatted format rest
      if faults.isEmpty then whenOpen s fun s => s.say shown
      else showFaults (s.say shown) faults

def showFolder : Utility :=
  withLetters "LP" "" fun _ s => whenOpen s fun s => s.say (s.folder ++ ['\n'])

/-! ### The folder -/

/-- The state in another folder, of which the script keeps the name. -/
def Shell.enter? (s : Shell) (path : Chars) : Option Shell :=
  match s.files.enter (Shell.pathOf path) with
  | .error _ => none
  | .ok files =>
    let exported (s : Shell) (name : String) (value : Chars) : Shell :=
      s.setVariable name.toList ⟨some value, true, false⟩
    let t := exported { s with files := files } "OLDPWD" ((s.value? "PWD".toList).getD s.folder)
    some (exported t "PWD" t.folder)

/-- Whether folders are looked for only from the present one. -/
def isAnchored (path : Chars) : Bool :=
  path.head? = some '/' || path = ['.'] || path = ['.', '.'] || ['.', '/'].isPrefixOf path ||
    ['.', '.', '/'].isPrefixOf path

def changeFolder : Utility :=
  withLetters "LP" "" fun g s =>
    let (path, shows) := match g.operands.head? with
      | none => (s.value "HOME".toList, false)
      | some ['-'] => (s.value "OLDPWD".toList, true)
      | some path => (path, false)
    let leads := if isAnchored path then [] else (s.value "CDPATH".toList).splitOn ':'
    let path := if path.isEmpty then ['.'] else path
    let below (lead : Chars) : Chars := if lead.isEmpty then path else lead ++ '/' :: path
    let found := leads.find? fun lead => s.files.isFolder (Shell.pathOf (below lead))
    match s.enter? (below (found.getD [])) with
    | some t =>
      if shows || !(found.getD []).isEmpty then t.say (t.folder ++ ['\n']) else t.answer 0
    | none => s.fail ("can't cd to ".toList ++ path)

/-! ### Leaving -/

/-- Leaves the script. In the answer to a signal, the status is what it was before. -/
def leave : Utility := fun args s =>
  match args with
  | [] => s.finish (.exited (s.trapStatus.getD s.status))
  | arg :: _ => withCount arg (fun n s => (s.answer n).finish (.exited n)) s

def leaveFunction : Utility := fun args s =>
  match args with
  | [] => { s with jump := .returns }
  | arg :: _ => withCount arg (fun n s => { s.answer n with jump := .returns }) s

/-- Leaves loops, or goes on with the next round of one. -/
def leaveLoops (jump : Nat → Jump) : Utility := fun args s =>
  let arg := args.headD ['1']
  withCount arg (fun n s =>
    if n = 0 then s.fail ("Illegal number: ".toList ++ arg)
    else
      let n := min n s.loops
      if n = 0 then s.answer 0 else { s.answer 0 with jump := jump n }) s

/-! ### Signals -/

def setTraps : Utility :=
  withLetters "" "" fun g s =>
    match g.operands with
    | [] =>
      let shown := s.traps.mergeSort fun a b => a.1 ≤ b.1
      s.say (shown.flatMap fun (n, action) =>
        "trap -- ".toList ++ quotedAgain action ++ ' ' :: Signal.name n ++ ['\n'])
    | first :: rest =>
      let isNumber := first.all Char.isDigit && (Signal.ofText? first).isSome
      let (action?, names) :=
        if rest.isEmpty || isNumber then (none, g.operands)
        else (if first = ['-'] then none else some first, rest)
      names.foldl (fun s name =>
        if s.status != 0 then s
        else match Signal.ofText? name with
          | none => s.complain ("trap: ".toList ++ name ++ ": bad trap".toList) 1
          | some n =>
            let others := s.traps.filter (·.1 != n)
            { s with traps := match action? with
                | some action => (n, action) :: others
                | none => others }) (s.answer 0)

/-- Ends a process in the background, which has done nothing later then. -/
def endJob (s : Shell) (job : Job) (n : Nat) : Shell :=
  if job.ends ≤ s.clock || Signal.isHarmless n then s
  else
    let isOf (m : Moment) : Bool := job.process ≤ m.process && m.process ≤ job.last
    { s with
      moments := s.moments.filter fun m => !(isOf m && s.clock < m.time)
      latest := if s.latest = job.ends then s.clock else s.latest
      jobs := s.jobs.map fun j =>
        if j.process = job.process then { j with ends := s.clock, status := .killed n } else j }

/-- The processes in the background, the first one first. -/
def jobAt? (s : Shell) (text : Chars) : Option Job :=
  if text = ['%'] || text = ['+'] then s.jobs.head?
  else s.jobs.reverse[natOf 10 text - 1]?

/-- Sends a signal to processes. Others than those of the script are not there. -/
def sendSignal (n : Nat) (targets : List Chars) (s : Shell) : Shell :=
  targets.foldl (fun s target =>
    if !s.goesOn then s
    else
      let toProcess (process : Nat) (s : Shell) : Shell :=
        match s.jobs.find? (·.process = process) with
        | some job => endJob s job n
        | none =>
          if process = 0 then s.signal s.process n
          else if process = s.process || s.ancestors.contains process then s.signal process n
          else s.complainHere "No such process\n".toList 1
      match target with
      | '%' :: text =>
        match jobAt? s text with
        | some job => endJob s job n
        | none => s.fail ("No such job: ".toList ++ target)
      | '-' :: text => withCount text toProcess s
      | _ => withCount target toProcess s) (s.answer 0)

def showSignals (args : List Chars) (s : Shell) : Shell :=
  match args with
  | [] => s.say ('0' :: '\n' :: Signal.all.flatMap fun (name, _) => name.toList ++ ['\n'])
  | arg :: _ =>
    withCount arg (fun n s =>
      let n := if 128 < n then n - 128 else n
      if 0 < n && n < 65 then s.say (Signal.name n ++ ['\n'])
      else s.fail ("invalid signal number or exit status: ".toList ++ arg)) s

def killProcesses : Utility := fun args s =>
  let usage := "Usage: kill [-s sigspec | -signum | -sigspec] [pid | job]... or\n" ++
    "kill -l [exitstatus]"
  let send (n : Nat) (targets : List Chars) (s : Shell) : Shell :=
    if targets.isEmpty then s.fail usage.toList else sendSignal n targets s
  match args with
  | [] => s.fail usage.toList
  | ('-' :: text) :: rest =>
    match if text = "EXIT".toList then none else Signal.ofText? text with
    | some n => send n rest s
    | none =>
      withLetters "l" "s" (fun g s =>
        if g.has 'l' then showSignals g.operands s
        else match g.value? 's' with
          | none => send 15 g.operands s
          | some name =>
            match Signal.ofText? name with
            | some n => send n g.operands s
            | none => s.fail ("invalid signal number or name: ".toList ++ name)) args s
  | _ => send 15 args s

/-! ### Processes -/

/-- Waits for one process in the background. -/
def waitForJob (job : Job) (s : Shell) : Shell :=
  let s := (s.waitUntil job.ends).mourn job.status
  { s with jobs := s.jobs.filter (·.process != job.process) }.answer (Shell.statusOf job.status)

def waitForProcesses : Utility := fun args s =>
  match args with
  | [] =>
    let s := s.jobs.foldl (fun s job => s.waitUntil job.ends) s
    { s with jobs := [] }.answer 0
  | _ =>
    args.foldl (fun s arg =>
      if !s.goesOn then s
      else
        let found := match arg with
          | '%' :: text => jobAt? s text
          | _ => s.jobs.find? fun job => natText job.process = arg
        match found with
        | some job => waitForJob job s
        | none =>
          if arg.head? = some '%' then s.fail ("No such job: ".toList ++ arg)
          else withCount arg (fun _ s => s.answer 127) s) s

def showJobs : Utility :=
  withLetters "lp" "" fun g s =>
    if g.has 'p' then
      s.say (unlines (s.jobs.reverse.map fun job => natText job.process))
    else s.answer 0

/-! ### The rest -/

/-- The rights that a mask leaves, as letters. -/
def maskText (mask : Nat) : Chars :=
  let rights (n : Nat) : Chars :=
    (if n / 4 % 2 = 0 then ['r'] else []) ++ (if n / 2 % 2 = 0 then ['w'] else []) ++
      if n % 2 = 0 then ['x'] else []
  "u=".toList ++ rights (mask / 64) ++ ",g=".toList ++ rights (mask / 8) ++ ",o=".toList ++
    rights mask

def setMask : Utility :=
  withLetters "S" "" fun g s =>
    match g.operands with
    | [] =>
      if g.has 'S' then s.say (maskText s.mask ++ ['\n'])
      else
        let digits := [512, 64, 8, 1].map fun n => Char.ofNat (s.mask / n % 8 + '0'.toNat)
        s.say (digits ++ ['\n'])
    | arg :: _ =>
      if arg.head?.any Char.isDigit then
        if arg.all isOctal then { s with mask := natOf 8 arg % 512 }.answer 0
        else s.fail ("Illegal number: ".toList ++ arg)
      else s.answer 0

def showTimes : Utility := fun _ s =>
  s.say ("0m0.000000s 0m0.000000s\n0m0.000000s 0m0.000000s\n".toList)

def setLimits : Utility := fun args s =>
  if (args.filter fun arg => arg.head? != some '-').isEmpty then s.say "unlimited\n".toList
  else s.answer 0

end PxeLaunch.Script

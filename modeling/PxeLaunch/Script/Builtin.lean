import PxeLaunch.Script.Builtin.Control
import PxeLaunch.Script.Program

/-!
The commands that a script is run with, by their names. An error in a special one of them ends the
script, and what is assigned before a special one stays.
-/

set_option autoImplicit false

namespace PxeLaunch.Script

/-- Commands that run other commands, which are told apart where commands are run. -/
inductive Control where
  | evaluates
  | includes
  | becomes
  | commands
  deriving DecidableEq

/-- What is behind the name of such a command. -/
inductive Builtin where
  | utility (u : Utility)
  | control (c : Control)

/-- The special ones. -/
def specialNames : List String :=
  [".", ":", "break", "continue", "eval", "exec", "exit", "export", "readonly", "return", "set",
   "shift", "times", "trap", "unset", "local"]

def isSpecialName (name : Chars) : Bool := specialNames.contains (String.ofList name)

/-- Those that take assignments as arguments. -/
def isDeclaration (name : Chars) : Bool :=
  ["export", "readonly", "local"].contains (String.ofList name)

/-- All names, those above among them. -/
def builtinNames : List String :=
  specialNames ++ ["[", "alias", "bg", "cd", "command", "echo", "false", "fg", "getopts", "hash",
    "jobs", "kill", "printf", "pwd", "read", "test", "true", "type", "ulimit", "umask", "unalias",
    "wait"]

def isBuiltinName (name : Chars) : Bool := builtinNames.contains (String.ofList name)

/-! ### What a name means -/

/-- What a name means, in a word that can be used to say it again, or in a sentence. -/
def meaning? (inWords : Bool) (name : Chars) (s : Shell) : Option Chars :=
  let say (text : String) : Option Chars :=
    some (if inWords then name ++ " is ".toList ++ text.toList else name)
  if keywords.contains (String.ofList name) then say "a shell keyword"
  else if (s.functions.lookup name).isSome then say "a shell function"
  else if isSpecialName name then say "a special shell builtin"
  else if isBuiltinName name then say "a shell builtin"
  else match s.locate? name with
    | some path =>
      if (s.find? path).isNone then none
      else some (if inWords then name ++ " is ".toList ++ path else path)
    | none => none

/-- Says what names mean. -/
def tellMeanings (inWords : Bool) (names : List Chars) (s : Shell) : Shell :=
  names.foldl (fun s name =>
    match meaning? inWords name s with
    | some text => s.put (text ++ ['\n'])
    | none =>
      if inWords then (s.put (name ++ ": not found\n".toList)).answer 127 else s.answer 127)
    (s.answer 0)

def checkNames : Utility :=
  withLetters "rv" "" fun g s =>
    g.operands.foldl (fun s name =>
      if (meaning? false name s).isSome then s
      else s.complainHere (name ++ ": not found".toList) 1) (s.answer 0)

/-- Nothing is known of other names for commands. -/
def forgetAliases : Utility := fun args s =>
  args.foldl (fun s name =>
    if name = ['-', 'a'] then s
    else s.complain ("unalias: ".toList ++ name ++ " not found".toList) 1) (s.answer 0)

/-- The command behind a name. -/
def builtin? (name : Chars) : Option Builtin :=
  match String.ofList name with
  | ":" => utility fun _ s => s.answer 0
  | "true" => utility fun _ s => s.answer 0
  | "false" => utility fun _ s => s.answer 1
  | "echo" => utility echo
  | "printf" => utility printFormat
  | "pwd" => utility showFolder
  | "cd" => utility changeFolder
  | "exit" => utility leave
  | "return" => utility leaveFunction
  | "break" => utility (leaveLoops .breaks)
  | "continue" => utility (leaveLoops .continues)
  | "shift" => utility shiftArguments
  | "set" => utility setOptions
  | "unset" => utility unsetNames
  | "export" => utility exportVariables
  | "readonly" => utility fixVariables
  | "local" => utility localVariables
  | "read" => utility readVariables
  | "getopts" => utility getOption
  | "trap" => utility setTraps
  | "kill" => utility killProcesses
  | "wait" => utility waitForProcesses
  | "jobs" => utility showJobs
  | "fg" => utility fun _ s => s.fail "No current job".toList
  | "bg" => utility fun _ s => s.fail "No current job".toList
  | "umask" => utility setMask
  | "times" => utility showTimes
  | "ulimit" => utility setLimits
  | "test" => utility (testCondition false)
  | "[" => utility (testCondition true)
  | "type" => utility (tellMeanings true)
  | "hash" => utility checkNames
  | "alias" => utility fun _ s => s.answer 0
  | "unalias" => utility forgetAliases
  | "eval" => some (.control .evaluates)
  | "." => some (.control .includes)
  | "exec" => some (.control .becomes)
  | "command" => some (.control .commands)
  | _ => none
where
  utility (u : Utility) : Option Builtin := some (.utility u)

end PxeLaunch.Script

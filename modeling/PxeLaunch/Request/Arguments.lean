import PxeLaunch.Request.Basic
import PxeLaunch.Text.Lines
import PxeLaunch.Text.Utf8

/-!
Command lines. A command has operands, flags and options with a value, which may come in any order
and at most once each; two hyphens alone make operands of all that follows. A command line that does
not fit is rejected as a whole.
-/

set_option autoImplicit false

namespace PxeLaunch.Arguments

/-- What a value stands for. -/
inductive Kind where
  | architecture
  | text
  | path
  deriving Repr, DecidableEq

/-- The architecture that an argument names. -/
def architecture? (arg : Bytes) : Option Architecture :=
  (Utf8.decode? arg).bind Architecture.ofName?

/-- Whether a value can be of a kind. -/
def Kind.accepts : Kind → Bytes → Bool
  | .architecture, arg => (architecture? arg).isSome
  | .text, arg => (Utf8.decode? arg).isSome
  | .path, arg => !arg.isEmpty

/-- What a command can be given. -/
structure Signature where
  operands : List Kind
  flags : List String
  options : List (String × Kind)

/-- What a command was given. -/
structure Given where
  operands : List Bytes
  flags : List String
  options : List (String × Bytes)
  deriving Repr, DecidableEq

/-- Why arguments are not used. -/
inductive Stop where
  | help
  | rejected
  deriving Repr, DecidableEq

/-- The byte of a hyphen. -/
def hyphen : UInt8 := 45

/-- The byte between an option and its value. -/
def equals : UInt8 := 61

/-- The forms that an argument can have. -/
inductive Form where
  | separator
  | long (name : Bytes) (value : Option Bytes)
  | short (letters : Bytes)
  | operand

/-- The form of an argument. A hyphen alone is an operand. -/
def Form.of (arg : Bytes) : Form :=
  match arg with
  | a :: b :: rest =>
    if a = hyphen && b = hyphen then
      if rest.isEmpty then .separator
      else
        let name := rest.takeWhile (· != equals)
        .long name (if name.length < rest.length then some (rest.drop (name.length + 1)) else none)
    else if a = hyphen then .short (b :: rest)
    else .operand
  | _ => .operand

/-- Adds an operand. -/
def Signature.addOperand (sig : Signature) (given : Given) (arg : Bytes) : Except Stop Given :=
  match sig.operands[given.operands.length]? with
  | some kind =>
    if kind.accepts arg then .ok { given with operands := given.operands ++ [arg] }
    else .error .rejected
  | none => .error .rejected

/-- Adds the value of an option. -/
def addOption (given : Given) (name : String) (kind : Kind) (value : Bytes) : Except Stop Given :=
  if (given.options.lookup name).isSome || !kind.accepts value then .error .rejected
  else .ok { given with options := (name, value) :: given.options }

/-- Adds a flag. -/
def addFlag (given : Given) (name : String) : Except Stop Given :=
  if given.flags.contains name then .error .rejected
  else .ok { given with flags := name :: given.flags }

/-- Whether an argument can be the value of the option before it. -/
def canBeValue (arg : Bytes) : Bool :=
  match Form.of arg with
  | .operand => true
  | _ => false

/-- An option that waits for its value. -/
abbrev Pending := Option (String × Kind)

/-- Adds a flag, or an option with the value that is attached to it. An option without one is left
waiting for it. -/
def Signature.addLong (sig : Signature) (given : Given) (name : String) (attached : Option Bytes) :
    Except Stop (Given × Pending) :=
  match sig.options.lookup name, attached with
  | some kind, some value => do return (← addOption given name kind value, none)
  | some kind, none => .ok (given, some (name, kind))
  | none, some _ => .error .rejected
  | none, none =>
    if sig.flags.contains name then do return (← addFlag given name, none)
    else .error (if name = "help" then .help else .rejected)

/-- The letter that asks for help. -/
def helpLetter : UInt8 := 104

/-- The letter that asks for the version. -/
def versionLetter : UInt8 := 86

/-- Adds arguments, up to the first that does not fit. -/
def Signature.collect (sig : Signature) (given : Given) :
    Pending → List Bytes → Except Stop Given
  | none, [] => .ok given
  | some _, [] => .error .rejected
  | some (name, kind), arg :: rest =>
    if canBeValue arg then do sig.collect (← addOption given name kind arg) none rest
    else .error .rejected
  | none, arg :: rest =>
    match Form.of arg with
    | .separator => rest.foldlM sig.addOperand given
    | .operand => do sig.collect (← sig.addOperand given arg) none rest
    | .short letters => .error (if letters.head? = some helpLetter then .help else .rejected)
    | .long bytes value =>
      match Utf8.decode? bytes with
      | none => .error .rejected
      | some name => do
        let (given, pending) ← sig.addLong given name value
        sig.collect given pending rest

/-- What a command was given, if it was given all that it needs. -/
def Signature.read (sig : Signature) (args : List Bytes) : Except Stop Given := do
  let given ← sig.collect ⟨[], [], []⟩ none args
  if given.operands.length < sig.operands.length then .error .rejected else .ok given

/-- An operand as an architecture. -/
def Given.architecture (given : Given) (i : Nat) : Except Stop Architecture :=
  match given.operands[i]?.bind architecture? with
  | some a => .ok a
  | none => .error .rejected

/-- An operand as text. -/
def Given.text (given : Given) (i : Nat) : Except Stop String :=
  match given.operands[i]?.bind Utf8.decode? with
  | some text => .ok text
  | none => .error .rejected

/-! ### Commands -/

/-- A command: its name, what it can be given, and the request that this makes. -/
structure Verb where
  name : String
  signature : Signature
  request : Given → Except Stop Request

/-- The command with a name. -/
def verb? (verbs : List Verb) (arg : Bytes) : Option Verb :=
  verbs.find? fun v => Bytes.ofString v.name == arg

/-- The commands about profiles. -/
def profileVerbs : List Verb := [
  { name := "list"
    signature := ⟨[], [], []⟩
    request := fun _ => .ok .listProfiles },
  { name := "describe"
    signature := ⟨[.architecture], [], [("format", .text)]⟩
    request := fun g => do
      let format := (g.options.lookup "format").bind Utf8.decode?
      return .describeProfile (← g.architecture 0) format },
  { name := "validate"
    signature := ⟨[.path], [], []⟩
    request := fun g => .ok (.validateProfile ⟨g.operands.headD []⟩) },
  { name := "template"
    signature := ⟨[.architecture], [], []⟩
    request := fun g => do return .profileTemplate (← g.architecture 0) }]

/-- The commands. -/
def verbs : List Verb := [
  { name := "run"
    signature := ⟨[.architecture], ["release", "no-accel", "dry-run"], []⟩
    request := fun g => do
      let has (flag : String) : Bool := g.flags.contains flag
      return .run (← g.architecture 0) (has "release") (has "no-accel") (has "dry-run") },
  { name := "build"
    signature := ⟨[.architecture], ["release"], []⟩
    request := fun g => do return .build (← g.architecture 0) (g.flags.contains "release") },
  { name := "filter"
    signature := ⟨[.architecture], [], []⟩
    request := fun g => do return .filter (← g.architecture 0) },
  { name := "doctor"
    signature := ⟨[], [], [("arch", .architecture)]⟩
    request := fun g => .ok (.doctor ((g.options.lookup "arch").bind architecture?)) },
  { name := "init"
    signature := ⟨[.text], [], []⟩
    request := fun g => do return .createProject (← g.text 0) }]

/-- The name of the group of commands about profiles. -/
def profilesGroup : Bytes := Bytes.ofString "profiles"

/-- What a command line asks for. -/
inductive CommandLine where
  | request (r : Request)
  | version
  | help
  | rejected
  deriving Repr, DecidableEq

def CommandLine.ofResult : Except Stop Request → CommandLine
  | .ok r => .request r
  | .error .help => .help
  | .error .rejected => .rejected

/-- What the arguments of a command ask for. -/
def readVerb (v : Verb) (args : List Bytes) : CommandLine :=
  .ofResult do v.request (← v.signature.read args)

/-- Whether help can be had about something. -/
def hasHelp : List Bytes → Bool
  | [] => true
  | [name] => (verb? verbs name).isSome || name == profilesGroup
  | [group, name] => group == profilesGroup && (verb? profileVerbs name).isSome
  | _ => false

def helpWord : Bytes := Bytes.ofString "help"

/-- What asks for help in place of a command. -/
def readHelp (topic args : List Bytes) : CommandLine :=
  if hasHelp (topic ++ args) then .help else .rejected

/-- What an argument in place of a command asks for, if it is no command. -/
def readSwitch (hasVersion : Bool) (arg : Bytes) : CommandLine :=
  match Form.of arg with
  | .long name none =>
    if name == helpWord then .help
    else if hasVersion && name == Bytes.ofString "version" then .version
    else .rejected
  | .short (letter :: _) =>
    if letter = helpLetter then .help
    else if hasVersion && letter = versionLetter then .version
    else .rejected
  | _ => .rejected

/-- What a command about profiles asks for. -/
def readProfiles : List Bytes → CommandLine
  | [] => .rejected
  | arg :: rest =>
    match verb? profileVerbs arg with
    | some v => readVerb v rest
    | none => if arg == helpWord then readHelp [profilesGroup] rest else readSwitch false arg

/-- What a command line asks for. -/
def read : List Bytes → CommandLine
  | [] => .rejected
  | arg :: rest =>
    match verb? verbs arg with
    | some v => readVerb v rest
    | none =>
      if arg == profilesGroup then readProfiles rest
      else if arg == helpWord then readHelp [] rest
      else readSwitch true arg

/-- The command lines that there are. -/
def usage : String :=
  Lines.ofList [
    "Usage: netboot <command>",
    "",
    "  run <arch> [--release] [--no-accel] [--dry-run]",
    "  build <arch> [--release]",
    "  profiles list",
    "  profiles describe <arch> [--format <format>]",
    "  profiles validate <file>",
    "  profiles template <arch>",
    "  filter <arch>",
    "  doctor [--arch <arch>]",
    "  init <name>"]

end PxeLaunch.Arguments

import PxeLaunch.Script.Shell

/-!
The options of utilities. Letters after a hyphen may be put together, and the last of them may have
a value; options and operands come in any order, and two hyphens make operands of all that follows.
-/

set_option autoImplicit false

namespace PxeLaunch.Script

/-- A command that needs no other command to be run. -/
abbrev Utility := List Chars → Shell → Shell

/-- The options that a utility knows: letters without and with a value, and longer names for
them. -/
structure Options where
  flags : String
  valued : String
  long : List (String × Char)
  mixed : Bool

/-- What a utility was given. -/
structure Given where
  options : List (Char × Chars)
  operands : List Chars

namespace Given

def has (g : Given) (letter : Char) : Bool := g.options.any (·.1 = letter)

/-- The value of an option that is given last. -/
def value? (g : Given) (letter : Char) : Option Chars :=
  (g.options.reverse.find? (·.1 = letter)).map (·.2)

/-- The values of an option. -/
def values (g : Given) (letter : Char) : List Chars :=
  (g.options.filter (·.1 = letter)).map (·.2)

/-- The last of some options that was given. -/
def last? (g : Given) (letters : String) : Option Char :=
  (g.options.reverse.find? fun o => letters.toList.contains o.1).map (·.1)

end Given

/-- An option that is not as it should be. -/
inductive OptionFault where
  | unknown (letter : Char)
  | unknownName (name : Chars)
  | noValue (letter : Char)
  | noValueName (name : Chars)
  | superfluous (name : Chars)

def OptionFault.message : OptionFault → Chars
  | .unknown letter => "invalid option -- '".toList ++ [letter, '\'']
  | .unknownName name => "unrecognized option '--".toList ++ name ++ ['\'']
  | .noValue letter => "option requires an argument -- '".toList ++ [letter, '\'']
  | .noValueName name => "option '--".toList ++ name ++ "' requires an argument".toList
  | .superfluous name => "option '--".toList ++ name ++ "' doesn't allow an argument".toList

namespace Options

/-- The letter that a longer name stands for, which may be cut short. -/
def letterOf? (o : Options) (name : Chars) : Option Char :=
  match o.long.find? fun (long, _) => long.toList = name with
  | some (_, letter) => some letter
  | none =>
    match o.long.filter fun (long, _) => name.isPrefixOf long.toList with
    | [(_, letter)] => some letter
    | _ => none

/-- Letters after a hyphen. The value of the last is what follows it, or the next argument. -/
def letters (o : Options) (g : Given) (rest : List Chars) :
    Chars → Except OptionFault (Given × List Chars)
  | [] => .ok (g, rest)
  | c :: cs =>
    if o.flags.toList.contains c then
      letters o { g with options := g.options ++ [(c, [])] } rest cs
    else if o.valued.toList.contains c then
      if cs.isEmpty then
        match rest with
        | value :: rest => .ok ({ g with options := g.options ++ [(c, value)] }, rest)
        | [] => .error (.noValue c)
      else .ok ({ g with options := g.options ++ [(c, cs)] }, rest)
    else .error (.unknown c)

/-- A longer option, whose value stands after an equals sign or is the next argument. -/
def named (o : Options) (g : Given) (rest : List Chars) (text : Chars) :
    Except OptionFault (Given × List Chars) :=
  let name := text.takeWhile (· != '=')
  let value? := if name.length < text.length then some (text.drop (name.length + 1)) else none
  match o.letterOf? name with
  | none => .error (.unknownName name)
  | some letter =>
    let add (value : Chars) (rest : List Chars) : Except OptionFault (Given × List Chars) :=
      .ok ({ g with options := g.options ++ [(letter, value)] }, rest)
    if o.valued.toList.contains letter then
      match value?, rest with
      | some value, _ => add value rest
      | none, value :: rest => add value rest
      | none, [] => .error (.noValueName name)
    else if value?.isSome then .error (.superfluous name)
    else add [] rest

/-- Tells options from operands. -/
def readFrom (o : Options) (g : Given) : (fuel : Nat) → List Chars → Except OptionFault Given
  | 0, _ => .ok g
  | _, [] => .ok g
  | fuel + 1, arg :: rest =>
    match arg with
    | ['-', '-'] => .ok { g with operands := g.operands ++ rest }
    | '-' :: '-' :: text => do
      let (g, rest) ← o.named g rest text
      readFrom o g fuel rest
    | '-' :: c :: cs => do
      let (g, rest) ← o.letters g rest (c :: cs)
      readFrom o g fuel rest
    | _ =>
      if o.mixed then readFrom o { g with operands := g.operands ++ [arg] } fuel rest
      else .ok { g with operands := g.operands ++ arg :: rest }

def read (o : Options) (args : List Chars) : Except OptionFault Given :=
  o.readFrom ⟨[], []⟩ (args.length + 1) args

end Options

/-- Shows an error in the name of a utility. -/
def blame (name : String) (text : Chars) (status : Nat) (s : Shell) : Shell :=
  s.complain (name.toList ++ ": ".toList ++ text) status

/-! ### Names in errors -/

/-- Whether a character can stand in double quotes. -/
def isHarmless (c : Char) : Bool :=
  c.isAlphanum || "%+-./:]_\x7b\x7d,@' #~".toList.contains c

/-- Whether a name can be shown without quotes. -/
def isPlainName (cs : Chars) : Bool :=
  match cs with
  | [] => false
  | c :: rest =>
    cs != "\x7b".toList && cs != "\x7d".toList && c != '#' && c != '~' &&
      (c :: rest).all fun c => isHarmless c && c != '\'' && c != ' '

/-- A character that leaves no mark, as it is shown after a dollar sign. -/
def hiddenForm (c : Char) : Chars :=
  match c with
  | '\x07' => ['\\', 'a']
  | '\x08' => ['\\', 'b']
  | '\x0c' => ['\\', 'f']
  | '\n' => ['\\', 'n']
  | '\r' => ['\\', 'r']
  | '\t' => ['\\', 't']
  | '\x0b' => ['\\', 'v']
  | _ =>
    let digits := Nat.toDigits 8 c.toNat
    '\\' :: List.replicate (3 - digits.length) '0' ++ digits

/-- A name after an opening quote. Characters that leave no mark stand in quotes of their own. -/
def quotedFrom (hidden : Bool) : Chars → Chars
  | [] => ['\'']
  | c :: rest =>
    if !isGraph c && c != ' ' then
      (if hidden then [] else "'$'".toList) ++ hiddenForm c ++ quotedFrom true rest
    else
      (if hidden then "''".toList else []) ++
        (if c = '\'' then "'\\''".toList else [c]) ++ quotedFrom false rest

/-- A name in quotes, as errors show it. -/
def quotedName (cs : Chars) : Chars :=
  if cs.contains '\'' && cs.all isHarmless then '"' :: cs ++ ['"'] else '\'' :: quotedFrom false cs

/-- A name in quotes if it needs them. -/
def nameInErrors (cs : Chars) : Chars := if isPlainName cs then cs else quotedName cs

/-! ### Errors -/

/-- Says where help can be found. -/
def pointToHelp (name : String) (status : Nat) (s : Shell) : Shell :=
  s.complain ("Try '".toList ++ name.toList ++ " --help' for more information.".toList) status

/-- A utility that is told from its options and operands. -/
def withOptions (name : String) (o : Options) (status : Nat) (f : Given → Shell → Shell) :
    Utility := fun args s =>
  match o.read args with
  | .ok g => f g s
  | .error fault => pointToHelp name status (blame name fault.message status s)

/-- Complains that there are no operands. -/
def missingOperand (name : String) (status : Nat) (s : Shell) : Shell :=
  pointToHelp name status (blame name "missing operand".toList status s)

/-- Complains that there is an operand too many. -/
def extraOperand (name : String) (operand : Chars) (s : Shell) : Shell :=
  pointToHelp name 1 (blame name ("extra operand ".toList ++ quotedName operand) 1 s)

end PxeLaunch.Script

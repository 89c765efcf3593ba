import PxeLaunch.Script.Format
import PxeLaunch.Script.Program

/-!
Utilities that say something about the machine, its user and its programs, or that only show their
arguments.
-/

set_option autoImplicit false

namespace PxeLaunch.Script

/-! ### The machine and its user -/

def showMachine : Utility :=
  withOptions "uname" ⟨"asnrvmpio", "", [("all", 'a'), ("kernel-name", 's'), ("nodename", 'n'),
    ("kernel-release", 'r'), ("kernel-version", 'v'), ("machine", 'm'), ("processor", 'p'),
    ("hardware-platform", 'i'), ("operating-system", 'o')], true⟩ 1 fun g s =>
    match g.operands with
    | extra :: _ => extraOperand "uname" extra s
    | [] =>
      let facts : List (Char × String) :=
        [('s', "Linux"), ('n', "localhost"), ('r', "6.1.0"), ('v', "#1 SMP"), ('m', "x86_64"),
         ('o', "GNU/Linux")]
      let asked := facts.filter fun (letter, _) =>
        g.has 'a' || g.has letter || g.options.isEmpty && letter = 's'
      s.say ([' '].intercalate (asked.map fun (_, fact) => fact.toList) ++ ['\n'])

def showUser : Utility :=
  withOptions "id" ⟨"unggGrza", "", [("user", 'u'), ("name", 'n'), ("group", 'g'),
    ("groups", 'G'), ("real", 'r')], true⟩ 1 fun g s =>
    if g.has 'u' || g.has 'g' || g.has 'G' then s.say (if g.has 'n' then "root\n" else "0\n").toList
    else s.say "uid=0(root) gid=0(root) groups=0(root)\n".toList

/-- Shows a text and takes no operands. -/
def showFact (name : String) (fact : String) : Utility :=
  withOptions name ⟨"asfd", "", [("all", 'a')], true⟩ 1 fun g s =>
    match g.operands with
    | extra :: _ => extraOperand name extra s
    | [] => s.say (fact.toList ++ ['\n'])

def showTerminal : Utility :=
  withOptions "tty" ⟨"s", "", [("silent", 's'), ("quiet", 's')], true⟩ 2 fun g s =>
    (if g.has 's' then s else s.put "not a tty\n".toList).answer 1

/-! ### Programs -/

/-- Shows the paths of programs. -/
def showPrograms : Utility :=
  withOptions "which" ⟨"as", "", [], false⟩ 2 fun g s =>
    if g.operands.isEmpty then s.answer 1
    else
      g.operands.foldl (fun s name =>
        let paths := if name.contains '/' then [name]
          else s.searchPath.map fun folder => folder ++ '/' :: name
        let found := paths.filter fun path => match s.find? path with
          | some (.file _ executable) => executable
          | _ => false
        let found := if g.has 'a' then found else found.take 1
        if found.isEmpty then s.answer 1
        else if g.has 's' then s
        else s.put (found.flatMap (· ++ ['\n']))) (s.answer 0)

/-! ### Arguments -/

/-- The letters of options at the front of arguments that are only shown. -/
def echoOptions (letters : Chars) : List Chars → Chars × List Chars
  | ('-' :: c :: cs) :: rest =>
    if (c :: cs).all "neE".toList.contains then echoOptions (letters ++ c :: cs) rest
    else (letters, ('-' :: c :: cs) :: rest)
  | args => (letters, args)

/-- Shows arguments in a line; escapes are replaced only if that is asked for. -/
def showArguments : Utility := fun args s =>
  let (letters, rest) := echoOptions [] args
  let text := [' '].intercalate rest
  let escapes := (letters.reverse.find? fun c => c != 'n') = some 'e'
  let (shown, stopped) := if escapes then unescaped text else (text, false)
  s.say (if letters.contains 'n' || stopped then shown else shown ++ ['\n'])

/-- Shows arguments in a format. -/
def showFormatted : Utility := fun args s =>
  let args := if args.head? = some ['-', '-'] then args.drop 1 else args
  match args with
  | [] => missingOperand "printf" 1 s
  | format :: rest =>
    let (shown, faults) := formatted format rest
    faults.foldl (fun s fault =>
      let text := match fault with
        | .noNumber arg => quotedName arg ++ ": expected a numeric value".toList
        | .moreThanNumber arg => quotedName arg ++ ": value not completely converted".toList
        | .tooLarge arg => quotedName arg ++ ": Numerical result out of range".toList
        | .unknown directive => directive ++ ": invalid conversion specification".toList
        | .unfinished => "%: invalid conversion specification".toList
      blame "printf" text 1 s) (s.say shown)

/-- How much is shown of something that does not end. -/
def enough : Nat := 262144

/-- Shows arguments again and again, as long as anyone listens. -/
def repeatArguments : Utility := fun args s =>
  let line := (if args.isEmpty then ['y'] else [' '].intercalate args) ++ ['\n']
  (s.write 1 (List.replicate (enough / line.length + 1) line).flatten).finish (.killed 13)

def showPresentFolder : Utility :=
  withOptions "pwd" ⟨"LP", "", [("logical", 'L'), ("physical", 'P')], true⟩ 1 fun _ s =>
    s.say (s.folder ++ ['\n'])

/-- Tests a condition as a program; in brackets if it goes by that name. -/
def testAlone (bracketed : Bool) : Utility := fun args s =>
  testCondition bracketed args { s with name := if bracketed then ['['] else "test".toList }

/-! ### Dates -/

/-- What a format shows of the first moment of all. -/
def firstDate : (fuel : Nat) → Chars → Chars
  | 0, _ => []
  | _, [] => []
  | fuel + 1, '%' :: c :: rest =>
    let text := match c with
      | 'Y' => "1970"
      | 'y' => "70"
      | 'm' => "01"
      | 'd' => "01"
      | 'e' => " 1"
      | 'j' => "001"
      | 'H' => "00"
      | 'I' => "12"
      | 'M' => "00"
      | 'S' => "00"
      | 'N' => "000000000"
      | 's' => "0"
      | 'F' => "1970-01-01"
      | 'T' => "00:00:00"
      | 'R' => "00:00"
      | 'D' => "01/01/70"
      | 'a' => "Thu"
      | 'A' => "Thursday"
      | 'b' => "Jan"
      | 'B' => "January"
      | 'p' => "AM"
      | 'u' => "4"
      | 'Z' => "UTC"
      | 'z' => "+0000"
      | 'n' => "\n"
      | 't' => "\t"
      | _ => String.ofList (if c = '%' then ['%'] else ['%', c])
    text.toList ++ firstDate fuel rest
  | fuel + 1, c :: rest => c :: firstDate fuel rest

def showDate : Utility :=
  withOptions "date" ⟨"uR", "drIs", [("utc", 'u'), ("universal", 'u'), ("date", 'd'),
    ("reference", 'r')], true⟩ 1 fun g s =>
    let format := (g.operands.find? fun a => a.head? = some '+').map (·.drop 1)
    let format := format.getD "%a %b %e %T %Z %Y".toList
    s.say (firstDate (format.length + 1) format ++ ['\n'])

end PxeLaunch.Script

import PxeLaunch.Script.Utility.Records.Machine

/-!
The input of programs over records: how a text is cut into records, and where they come from.
-/

set_option autoImplicit false

namespace PxeLaunch.Script.Records

/-! ### Records -/

/-- A record up to an empty line, and what follows that. -/
def paragraph (found : Chars) : Chars → Chars × Chars
  | [] => ((found.dropWhile (· = '\n')).reverse, [])
  | c :: rest =>
    if c = '\n' && (rest.isEmpty || rest.head? = some '\n') then
      (found.reverse, rest.dropWhile (· = '\n'))
    else paragraph (c :: found) rest

/-- The first record of a text that is not empty, and what follows it. -/
def cutRecord (cs : Chars) : Act (Option (Chars × Chars)) := do
  if cs.isEmpty then return none
  else
    let cutAt (c : Char) : Option (Chars × Chars) :=
      let record := cs.takeWhile (· != c)
      some (record, cs.drop (record.length + 1))
    match (← get).setting "RS" with
    | [] =>
      let body := cs.dropWhile (· = '\n')
      return if body.isEmpty then none else some (paragraph [] body)
    | [c] => return cutAt c
    | separator =>
      let search ← searchFor separator
      let t := search.subject cs
      match search.findFrom t (fun m => m.start < m.stop) (cs.length + 1) 0 with
      | some m => return some (cs.take m.start, cs.drop m.stop)
      | none => return some (cs, [])

/-! ### The input -/

/-- Counts a record of the input. -/
def countRecord : Act PUnit := modify fun m =>
  (m.set "NR" (.number (m.count "NR" + 1.0))).set "FNR" (.number (m.count "FNR" + 1.0))

/-- An argument that gives a variable a value. -/
def assignment? (arg : Chars) : Option (Chars × Chars) :=
  let name := arg.takeWhile isNameChar
  match name, arg.drop name.length with
  | c :: _, '=' :: value => if c.isDigit then none else some (name, value)
  | _, _ => none

/-- Does what an argument says that gives a variable a value. -/
def assignArgument (name value : Chars) : Act PUnit :=
  setVariable name (.input (textOfEscapes (value.length + 1) value))

/-- Opens the next input, unless there is none. -/
def openNext : (fuel : Nat) → Act Bool
  | 0 => return false
  | fuel + 1 => do
    let m ← get
    if Float.ofNat m.argument < m.count "ARGC" then
      set { m with argument := m.argument + 1 }
      let place ← tableOf "ARGV".toList
      let arg ← toText (((← tableAt place).get? (natText m.argument)).getD .unset)
      if arg.isEmpty then openNext fuel
      else match assignment? arg with
        | some (name, value) =>
          assignArgument name value
          openNext fuel
        | none =>
          let m := ((← get).set "FILENAME" (.input arg)).set "FNR" (.number 0.0)
          if arg = ['-'] then
            let (text, s) := m.shell.readStdin
            set { m with shell := s, hasInput := true, input := some text }
            return true
          else match m.shell.readFile arg with
            | .ok (text, s) =>
              set { m with shell := s, hasInput := true, input := some text }
              return true
            | .error .isDirectory => throw (.failed "read error (Is a directory)".toList)
            | .error e => cannotOpen arg [] e
    else if m.hasInput then return false
    else
      let (text, s) := m.shell.readStdin
      set { m with shell := s, hasInput := true, input := some text }
      return true

/-- The most arguments that are looked at for one record. -/
def mostInputs : Nat := 10000

/-- The next record of the input. -/
def nextRecord? : (fuel : Nat) → Act (Option Chars)
  | 0 => return none
  | fuel + 1 => do
    let found? ← match (← get).input with
      | some text => cutRecord text
      | none => pure none
    match found? with
    | some (record, rest) =>
      modify fun m => { m with input := some rest }
      countRecord
      return some record
    | none =>
      modify fun m => { m with input := none }
      if ← openNext mostInputs then nextRecord? fuel else return none

/-! ### Other sources -/

/-- What can be read from a file or a command, which is opened first if it is not open; there is
nothing if it cannot be. -/
def openedText? (spawn : Spawn) (source : Source) (name : Chars) : Act (Option Chars) := do
  let m ← get
  match m.opened.find? fun o => o.source = source && o.name = name with
  | some o => return some o.rest
  | none =>
    let found? ← match source with
      | .command =>
        flush
        let place := (← get).shell.streams.size
        let status ← runCommand spawn name fun s => s.connect 1 (.sink [])
        let pieces := ((← get).shell.streams[place]?.map Stream.written).getD []
        pure (some (Chars.ofBytes (pieces.flatMap (·.2)), status))
      | _ =>
        if name = ['-'] then
          let (text, s) := m.shell.readStdin
          set { m with shell := s }
          pure (some (text, .exited 0))
        else match m.shell.readFile name with
          | .ok (text, s) =>
            set { m with shell := s }
            pure (some (text, .exited 0))
          | .error .isDirectory => throw (.failed "read error (Is a directory)".toList)
          | .error _ => pure none
    match found? with
    | some (text, status) =>
      modify fun m => { m with opened := m.opened ++ [⟨source, name, text, status⟩] }
      return some text
    | none => return none

/-- Notes what is left of an open source. -/
def leave (source : Source) (name rest : Chars) : Act PUnit :=
  modify fun m => { m with
    opened := m.opened.map fun o =>
      if o.source = source && o.name = name then { o with rest := rest } else o }

/-- The next record of a file or a command; there is none at its end, and nothing at all if it
cannot be opened. -/
def recordFrom? (spawn : Spawn) (source : Source) (name : Chars) :
    Act (Option (Option Chars)) := do
  match ← openedText? spawn source name with
  | none => return none
  | some text =>
    match ← cutRecord text with
    | some (record, rest) =>
      leave source name rest
      return some (some record)
    | none => return some none

end PxeLaunch.Script.Records

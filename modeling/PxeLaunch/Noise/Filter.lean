import PxeLaunch.Noise.ControlSequence
import PxeLaunch.Profile.Basic
import PxeLaunch.Regex.Template

/-!
The noise filter. A line is compared with each rule at its start, without its terminator and its
control sequences; the first rule that matches replaces it, and what it was replaced by is compared
again until no rule matches. A line that no rule matches is left as it is, byte for byte. A line may
come in chunks, of which only the first is compared: if it is replaced, the others are dropped up to
the terminator.
-/

set_option autoImplicit false

namespace PxeLaunch.Noise

/-! ### Lines -/

/-- The newline at the end of a line, with the carriage return before it. -/
def terminator (line : Bytes) : Bytes :=
  match line.reverse with
  | a :: b :: _ =>
    if a = Bytes.newline then if b = Bytes.carriageReturn then [b, a] else [a] else []
  | [a] => if a = Bytes.newline then [a] else []
  | [] => []

/-- A line without its terminator. -/
def content (line : Bytes) : Bytes := line.take (line.length - (terminator line).length)

/-! ### Rules -/

/-- A noise pattern, compiled, with what takes the place of a line that it matches. -/
structure Rule where
  pattern : Regex.Pattern
  replacement : String

/-- Why noise patterns make no filter. -/
inductive FilterError where
  | badPattern (pattern : String) (cause : Regex.PatternError)
  | selfMatching (replacement anchored : String)
  deriving Repr, DecidableEq

def FilterError.text : FilterError → String
  | .badPattern pattern cause => s!"invalid noise pattern '{pattern}': {cause.message}"
  | .selfMatching replacement anchored =>
    s!"noise replacement '{replacement}' is matched by pattern '{anchored}'"

/-- Compiles a noise pattern. Console output need not be text. -/
def Rule.compile (p : NoisePattern) : Except FilterError Rule :=
  match Regex.Pattern.compile .bytes p.anchored with
  | .ok pattern => .ok ⟨pattern, p.replacement⟩
  | .error cause => .error (.badPattern p.pattern cause)

/-- Compiled rules in order. -/
structure Filter where
  rules : List Rule

namespace Filter

/-- The first rule that matches a byte string. -/
def catcher? (f : Filter) (bytes : Bytes) : Option Rule :=
  f.rules.find? fun r => r.pattern.isMatch bytes

/-- Compiles noise patterns. A replacement that some rule would take for noise is refused, whichever
rule it belongs to. -/
def compile (patterns : List NoisePattern) : Except FilterError Filter := do
  let f : Filter := ⟨← patterns.mapM Rule.compile⟩
  match f.rules.findSome? fun r =>
      (f.catcher? (Bytes.ofString r.replacement)).map fun c =>
        (r.replacement, c.pattern.source) with
  | some (replacement, anchored) => .error (.selfMatching replacement anchored)
  | none => .ok f

/-- The filter that changes nothing. -/
def passthrough : Filter := ⟨[]⟩

/-! ### Lines -/

/-- What the first matching rule puts in place of a line's content. -/
def step (f : Filter) (line : Bytes) : Option Bytes :=
  let visible := ControlSequence.strip line
  f.rules.findSome? fun r =>
    (r.pattern.captures? visible).map fun c => c.expand r.replacement

/-- Replaces until no rule matches, if that takes fewer than `passes` steps. -/
def settle (f : Filter) : (passes : Nat) → Bytes → Option Bytes
  | 0, _ => none
  | passes + 1, line =>
    match f.step line with
    | none => some line
    | some next => settle f passes next

/-- The number of steps after which a line has to have settled. -/
def maxSteps : Nat := 7

/-- What is put in place of a line's content. Nothing is if no rule matches it, or if it does not
settle. -/
def replace (f : Filter) (line : Bytes) : Option Bytes :=
  (f.step line).bind (f.settle maxSteps)

/-- A whole line as it is shown, if rules change it. -/
def replaceLine (f : Filter) (line : Bytes) : Option Bytes :=
  (f.replace (content line)).map (· ++ terminator line)

/-- A whole line as it is shown. -/
def line (f : Filter) (bytes : Bytes) : Bytes := (f.replaceLine bytes).getD bytes

end Filter

/-! ### Chunks -/

/-- A line or a part of one. -/
structure Chunk where
  bytes : Bytes
  startsLine : Bool
  deriving Repr, DecidableEq

/-- Whether the line that is being read was replaced, so that the rest of it has to go. -/
structure LineState where
  replaced : Bool
  deriving Repr, DecidableEq

/-- No line has been read yet. -/
def LineState.start : LineState := ⟨false⟩

/-- A chunk as it is shown, and the state after it. -/
def Filter.chunk (f : Filter) (c : Chunk) (s : LineState) : Bytes × LineState :=
  let ending := terminator c.bytes
  if c.startsLine then
    match f.replace (content c.bytes) with
    | some out => (out ++ ending, ⟨ending.isEmpty⟩)
    | none => (c.bytes, ⟨false⟩)
  else if s.replaced then (ending, ⟨ending.isEmpty⟩)
  else (c.bytes, s)

end PxeLaunch.Noise

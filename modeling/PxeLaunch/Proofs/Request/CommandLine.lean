import PxeLaunch.Proofs.Result
import PxeLaunch.Proofs.Text.Inside
import PxeLaunch.Proofs.Text.Strict
import PxeLaunch.Request.Arguments

/-!
Command lines that ask for a run. The name of an architecture has the flags of the run around it, in
any order. Main statement: such a command line is read as the request that it spells.
-/

set_option autoImplicit false

namespace PxeLaunch

/-! ### Arguments that name an architecture -/

private theorem Utf8.head_ofChars {b : UInt8} (hb : b < 0x80) {c : Char} {cs : List Char}
    {rest : Bytes} (h : Bytes.ofChars (c :: cs) = b :: rest) : c = Char.ofNat b.toNat := by
  obtain ⟨lead, tail, hencode, hunit⟩ := unitAt_encode c (Bytes.ofChars cs)
  rw [Bytes.ofChars, List.flatMap_cons, hencode] at h
  obtain ⟨rfl, -⟩ := List.cons.inj h
  have hone : unitAt lead (tail ++ Bytes.ofChars cs) = .char (Char.ofNat lead.toNat) 1 := by
    unfold unitAt
    rw [if_pos hb]
  exact (Unit.char.inj (hunit.symm.trans hone)).1

private theorem Architecture.ofName?_hyphen (cs : List Char) :
    ofName? (String.ofList ('-' :: cs)) = none := by
  have hlower : Char.toLower '-' = '-' := by decide
  have hne {s : String} (hs : s.toList.head? ≠ some '-') :
      String.ofList ('-' :: cs.map Char.toLower) ≠ s := by
    rintro rfl
    simp at hs
  rw [ofName?, String.toList_ofList, List.map_cons, hlower]
  -- None of the names begins with a hyphen.
  split <;> first | rfl | exact absurd ‹_› (hne (by decide))

namespace Arguments

private theorem form_of_architecture? {arg : Bytes} {a : Architecture}
    (h : architecture? arg = some a) : Form.of arg = .operand := by
  obtain ⟨s, hs, ha⟩ := Option.bind_eq_some_iff.mp h
  rw [Utf8.decode?_eq_some_iff] at hs
  subst hs
  cases hchars : s.toList with
  | nil => simp [Bytes.ofString, hchars, Bytes.ofChars, Form.of]
  | cons c cs =>
    have hc : c ≠ '-' := by
      rintro rfl
      rw [← String.ofList_toList (s := s), hchars, Architecture.ofName?_hyphen] at ha
      cases ha
    rw [Bytes.ofString, hchars]
    cases hbytes : Bytes.ofChars (c :: cs) with
    | nil => rfl
    | cons b rest =>
      have hb : b ≠ hyphen := by
        rintro rfl
        exact hc (Utf8.head_ofChars (by decide) hbytes)
      cases rest with
      | nil => rfl
      | cons b' rest => simp [Form.of, hb]

/-! ### Flags around an operand -/

def flagArg (flag : String) : Bytes := Bytes.ofString ("--" ++ flag)

variable {sig : Signature} {given : Given}

private theorem collect_flagArg {flag : String}
    (hform : Form.of (flagArg flag) = .long (.ofString flag) none)
    (hoptions : sig.options = []) (hflag : flag ∈ sig.flags) (hnew : flag ∉ given.flags)
    (rest : List Bytes) :
    sig.collect given none (flagArg flag :: rest) =
      sig.collect { given with flags := flag :: given.flags } none rest := by
  rw [Signature.collect, hform]
  simp [Utf8.decode?_ofString, Signature.addLong, hoptions, hflag, addFlag, hnew]

private theorem collect_flagArgs {flags : List String}
    (hform : ∀ flag ∈ flags, Form.of (flagArg flag) = .long (.ofString flag) none)
    (hoptions : sig.options = []) (hflags : ∀ flag ∈ flags, flag ∈ sig.flags)
    (hnew : (given.flags.reverse ++ flags).Nodup) (rest : List Bytes) :
    sig.collect given none (flags.map flagArg ++ rest) =
      sig.collect { given with flags := flags.reverse ++ given.flags } none rest := by
  induction flags generalizing given with
  | nil => rfl
  | cons flag flags ih =>
    obtain ⟨hform, hforms⟩ := List.forall_mem_cons.mp hform
    obtain ⟨hflag, hflags⟩ := List.forall_mem_cons.mp hflags
    have hfresh : flag ∉ given.flags := fun hmem =>
      (List.nodup_append.mp hnew).2.2 flag (List.mem_reverse.mpr hmem) flag List.mem_cons_self rfl
    rw [List.map_cons, List.cons_append, collect_flagArg hform hoptions hflag hfresh,
      ih hforms hflags (by simpa using hnew)]
    simp

/-! ### Runs -/

def runFlags : List String := ["release", "no-accel", "dry-run"]

private theorem form_of_mem_runFlags {flag : String} (h : flag ∈ runFlags) :
    Form.of (flagArg flag) = .long (.ofString flag) none := by
  simp only [runFlags, List.mem_cons, List.not_mem_nil, or_false] at h
  rcases h with rfl | rfl | rfl <;> rfl

/-- A command line that asks for a run: the name of an architecture, with flags on both sides, each
of them at most once. -/
structure RunLine where
  before : List String
  name : Bytes
  after : List String
  architecture : Architecture
  named : architecture? name = some architecture
  known : ∀ flag ∈ before ++ after, flag ∈ runFlags
  distinct : (before ++ after).Nodup

namespace RunLine

def args (line : RunLine) : List Bytes :=
  Bytes.ofString "run" :: (line.before.map flagArg ++ line.name :: line.after.map flagArg)

def has (line : RunLine) (flag : String) : Bool := (line.before ++ line.after).contains flag

def request (line : RunLine) : Request :=
  .run line.architecture (line.has "release") (line.has "no-accel") (line.has "dry-run")

private theorem read_signature (line : RunLine) :
    Signature.read ⟨[.architecture], runFlags, []⟩
        (line.before.map flagArg ++ line.name :: line.after.map flagArg) =
      .ok ⟨[line.name], line.after.reverse ++ line.before.reverse, []⟩ := by
  obtain ⟨hbefore, hafter⟩ := List.forall_mem_append.mp line.known
  have hfront : line.before.Nodup := (List.nodup_append.mp line.distinct).1
  have haccepts : Kind.accepts .architecture line.name = true := by
    simp [Kind.accepts, line.named]
  -- The flags before the name are read first, then the name, and then the flags after it.
  rw [Signature.read, collect_flagArgs (fun flag h => form_of_mem_runFlags (hbefore flag h)) rfl
    hbefore (by simpa using hfront), Signature.collect, form_of_architecture? line.named]
  simp only [Signature.addOperand, List.length_nil, List.getElem?_cons_zero, haccepts, if_true,
    ok_bind]
  rw [← List.append_nil (line.after.map flagArg),
    collect_flagArgs (fun flag h => form_of_mem_runFlags (hafter flag h)) rfl hafter
      (by simpa using line.distinct)]
  simp [Signature.collect]

/-- The command line is read as the request that it spells. -/
theorem read_args (line : RunLine) : read line.args = .request line.request := by
  have hverb : verb? verbs (Bytes.ofString "run") = some {
      name := "run"
      signature := ⟨[.architecture], runFlags, []⟩
      request := fun g => do
        let has (flag : String) : Bool := g.flags.contains flag
        return .run (← g.architecture 0) (has "release") (has "no-accel") (has "dry-run") } := by
    simp [verb?, verbs, runFlags]
  rw [args, read, hverb]
  simp only [readVerb, read_signature, ok_bind]
  simp [Given.architecture, line.named, CommandLine.ofResult, request, has, Bool.or_comm]

def ofRequest (a : Architecture) (release withoutAcceleration dryRun : Bool) : RunLine where
  before := []
  name := .ofString a.name
  after := (if release then ["release"] else []) ++
    (if withoutAcceleration then ["no-accel"] else []) ++ (if dryRun then ["dry-run"] else [])
  architecture := a
  named := by cases a <;> rfl
  known := by cases release <;> cases withoutAcceleration <;> cases dryRun <;> decide
  distinct := by cases release <;> cases withoutAcceleration <;> cases dryRun <;> decide

theorem request_ofRequest (a : Architecture) (release withoutAcceleration dryRun : Bool) :
    (ofRequest a release withoutAcceleration dryRun).request =
      .run a release withoutAcceleration dryRun := by
  cases release <;> cases withoutAcceleration <;> cases dryRun <;> rfl

end RunLine

end Arguments

end PxeLaunch

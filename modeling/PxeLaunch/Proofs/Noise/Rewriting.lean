import PxeLaunch.Proofs.Noise.Idempotence
import PxeLaunch.Proofs.Result

/-!
Rewriting as steps, one after another. In one step the first rule that matches takes the place of
the content. Main statement: content is replaced by what is left after its last step, if there is
one step at least and there are seven at most; otherwise it stays as it is.
-/

set_option autoImplicit false

namespace PxeLaunch.Noise.Filter

/-- What the content has become after a number of steps, if so many can be taken. -/
def steps (f : Filter) : (count : Nat) → Bytes → Option Bytes
  | 0, bytes => some bytes
  | count + 1, bytes => (f.step bytes).bind (steps f count)

/-- Whether a rule is the first one that matches what is visible of the content, and `out` is what
it puts in the place of the content. -/
def PutsFirst (f : Filter) (bytes out : Bytes) : Prop :=
  ∃ before r after captures, f.rules = before ++ r :: after ∧
    (∀ q ∈ before, q.pattern.isMatch (ControlSequence.strip bytes) = false) ∧
    r.pattern.captures? (ControlSequence.strip bytes) = some captures ∧
    out = captures.expand r.replacement

variable {f : Filter} {bytes out : Bytes} {count passes : Nat}

/-! ### One step -/

theorem isMatch_eq_false_iff_captures? {p : Regex.Pattern} {text : Bytes} :
    p.isMatch text = false ↔ p.captures? text = none := by
  rw [Regex.Pattern.isMatch, Regex.Pattern.captures?, Option.isSome_eq_false_iff,
    Option.isNone_iff_eq_none, Option.map_eq_none_iff]

theorem step_eq_some_iff : f.step bytes = some out ↔ f.PutsFirst bytes out := by
  rw [step, List.findSome?_eq_some_iff]
  simp only [Option.map_eq_some_iff, Option.map_eq_none_iff, ← isMatch_eq_false_iff_captures?]
  constructor
  · rintro ⟨before, r, after, hrules, ⟨captures, hcaptures, hout⟩, hbefore⟩
    exact ⟨before, r, after, captures, hrules, hbefore, hcaptures, hout.symm⟩
  · rintro ⟨before, r, after, captures, hrules, hbefore, hcaptures, hout⟩
    exact ⟨before, r, after, hrules, ⟨captures, hcaptures, hout.symm⟩, hbefore⟩

theorem step_eq_none_iff :
    f.step bytes = none ↔
      ∀ r ∈ f.rules, r.pattern.isMatch (ControlSequence.strip bytes) = false := by
  simp only [step, List.findSome?_eq_none_iff, Option.map_eq_none_iff,
    isMatch_eq_false_iff_captures?]

/-! ### Several steps -/

private theorem steps_succ_of_step {next : Bytes} (h : f.step bytes = some next) (count : Nat) :
    f.steps (count + 1) bytes = f.steps count next := by
  rw [steps, h, Option.bind_some]

private theorem steps_succ_of_none (h : f.step bytes = none) (count : Nat) :
    f.steps (count + 1) bytes = none := by
  rw [steps, h, Option.bind_none]

private theorem isSome_steps_of_le {more : Nat} (hle : count ≤ more)
    (h : (f.steps more bytes).isSome = true) : (f.steps count bytes).isSome = true := by
  induction count generalizing more bytes with
  | zero => rfl
  | succ count ih =>
    obtain ⟨more, rfl⟩ : ∃ rest, more = rest + 1 := ⟨more - 1, by omega⟩
    cases hstep : f.step bytes with
    | none => simp [steps_succ_of_none hstep] at h
    | some next =>
      rw [steps_succ_of_step hstep] at h ⊢
      exact ih (by omega) h

theorem settle_eq_some_iff :
    f.settle passes bytes = some out ↔
      ∃ count < passes, f.steps count bytes = some out ∧ f.step out = none := by
  induction passes generalizing bytes with
  | zero => simp [settle]
  | succ passes ih =>
    cases hstep : f.step bytes with
    | none =>
      simp only [settle, hstep, Option.some.injEq]
      constructor
      · rintro rfl
        exact ⟨0, by omega, rfl, hstep⟩
      · rintro ⟨count, -, hsteps, -⟩
        cases count with
        | zero => simpa [steps] using hsteps
        | succ count => simp [steps_succ_of_none hstep] at hsteps
    | some next =>
      simp only [settle, hstep, ih]
      constructor
      · rintro ⟨count, hlt, hsteps, hlast⟩
        exact ⟨count + 1, by omega, by rwa [steps_succ_of_step hstep], hlast⟩
      · rintro ⟨count, hlt, hsteps, hlast⟩
        -- The content itself has not settled, so there is a step before the last.
        obtain ⟨count, rfl⟩ : ∃ rest, count = rest + 1 := by
          cases count with
          | zero =>
            rw [steps, Option.some.injEq] at hsteps
            rw [← hsteps, hstep] at hlast
            simp at hlast
          | succ count => exact ⟨count, rfl⟩
        exact ⟨count, by omega, by rwa [← steps_succ_of_step hstep], hlast⟩

private theorem settle_eq_none_iff :
    f.settle passes bytes = none ↔ (f.steps passes bytes).isSome = true := by
  induction passes generalizing bytes with
  | zero => simp [settle, steps]
  | succ passes ih =>
    cases hstep : f.step bytes with
    | none => simp [settle, hstep, steps_succ_of_none hstep]
    | some next => simp only [settle, hstep, ih, steps_succ_of_step hstep]

/-! ### What takes the place of content -/

private theorem replace_eq_some_iff :
    f.replace bytes = some out ↔
      ∃ count, 1 ≤ count ∧ count ≤ maxSteps ∧ f.steps count bytes = some out ∧
        f.step out = none := by
  simp only [replace, Option.bind_eq_some_iff, settle_eq_some_iff]
  constructor
  · rintro ⟨next, hstep, count, hlt, hsteps, hlast⟩
    exact ⟨count + 1, by omega, hlt, by rwa [steps_succ_of_step hstep], hlast⟩
  · rintro ⟨count, hpos, hle, hsteps, hlast⟩
    obtain ⟨count, rfl⟩ : ∃ rest, count = rest + 1 := ⟨count - 1, by omega⟩
    obtain ⟨next, hstep, hrest⟩ := Option.bind_eq_some_iff.mp hsteps
    exact ⟨next, hstep, count, hle, hrest, hlast⟩

private theorem replace_eq_none_iff :
    f.replace bytes = none ↔
      f.step bytes = none ∨ (f.steps (maxSteps + 1) bytes).isSome = true := by
  cases hstep : f.step bytes with
  | none => simp [replace, hstep]
  | some next =>
    simp only [replace, hstep, Option.bind_some, settle_eq_none_iff, steps_succ_of_step hstep,
      reduceCtorEq, false_or]

/-- In a step, the first rule that matches what is visible puts its expansion in the place of the
content. After one to seven steps, the last of which leaves what no rule matches, this is what takes
the place of the content. Nothing does if there is no step at all or if there are eight steps or
more, and a line with such content is left as it is, with its control sequences and its
terminator. -/
theorem replace_iterates_step (f : Filter) (bytes : Bytes) :
    (∀ out, f.step bytes = some out ↔ f.PutsFirst bytes out) ∧
    (f.step bytes = none ↔
      ∀ r ∈ f.rules, r.pattern.isMatch (ControlSequence.strip bytes) = false) ∧
    (∀ out, f.replace bytes = some out ↔
      ∃ count, 1 ≤ count ∧ count ≤ 7 ∧ f.steps count bytes = some out ∧ f.step out = none) ∧
    (f.replace bytes = none ↔
      f.step bytes = none ∨ ∃ count, 8 ≤ count ∧ (f.steps count bytes).isSome = true) ∧
    (∀ out, f.replace bytes = some out → f.replace out = none) ∧
    ∀ line, content line = bytes → f.replace bytes = none → f.line line = line := by
  refine ⟨fun out => step_eq_some_iff, step_eq_none_iff, fun out => replace_eq_some_iff, ?_,
    fun out => replace_of_replace, ?_⟩
  · rw [replace_eq_none_iff]
    refine or_congr_right ⟨fun h => ⟨8, Nat.le_refl 8, h⟩, ?_⟩
    rintro ⟨count, hle, h⟩
    exact isSome_steps_of_le hle h
  · rintro line rfl hnone
    exact line_of_replace_none hnone

/-- Control sequences go with the first step, which keeps what its group has captured. The second
step is the last one. -/
theorem replace_iterates_step_dimmed :
    let dimmed := Bytes.ofString "\u001b[2mdebug: \u001b[1mdebug: slow\u001b[0m"
    let once := Bytes.ofString "debug: slow"
    let slow := Bytes.ofString "slow"
    ∃ f, compile [⟨"debug: (.*)", "$1"⟩] = .ok f ∧ f.PutsFirst dimmed once ∧
      f.PutsFirst once slow ∧ f.replace dimmed = some slow ∧ f.replace slow = none := by
  intro dimmed once slow
  have hrun : (compile [⟨"debug: (.*)", "$1"⟩]).toOption.map (fun f =>
      (f.step dimmed, f.step once, f.step slow)) = some (some once, some slow, none) := by
    decide +kernel
  obtain ⟨f, hf, hsteps⟩ := Option.map_eq_some_iff.mp hrun
  simp only [Prod.mk.injEq] at hsteps
  obtain ⟨hfirst, hsecond, hlast⟩ := hsteps
  obtain ⟨hputs, -, hreplace, -, hsettled, -⟩ := replace_iterates_step f dimmed
  have htwo : f.steps 2 dimmed = some slow := by
    rw [steps_succ_of_step hfirst, steps_succ_of_step hsecond, steps]
  have hout : f.replace dimmed = some slow :=
    (hreplace slow).mpr ⟨2, by decide, by decide, htwo, hlast⟩
  exact ⟨f, toOption_eq_some.mp hf, (hputs once).mp hfirst, step_eq_some_iff.mp hsecond, hout,
    hsettled slow hout⟩

/-- One letter is taken away in each step: seven are, and eight are too many. -/
example :
    (compile [⟨"a(.*)", "$1"⟩]).toOption.map (fun f =>
      (f.replace (Bytes.ofString "aaaaaaa!"), f.replace (Bytes.ofString "aaaaaaaa!"))) =
      some (some (Bytes.ofString "!"), none) := by
  decide +kernel

end PxeLaunch.Noise.Filter

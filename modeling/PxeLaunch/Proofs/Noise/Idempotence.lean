import PxeLaunch.Proofs.Noise.Terminator

/-!
Filtering a line twice. What takes the place of a line's content is settled: no rule matches it. But
a replacement may end in bytes that its line then takes for a part of its terminator, and what is
left of the content need not be settled. Main statement: a second pass changes a line in this case
and in no other.
-/

set_option autoImplicit false

namespace PxeLaunch.Noise

/-! ### Settled content -/

theorem Filter.step_of_settle {f : Filter} {passes : Nat} {bytes out : Bytes}
    (h : f.settle passes bytes = some out) : f.step out = none := by
  induction passes generalizing bytes with
  | zero => simp [Filter.settle] at h
  | succ passes ih =>
    cases hstep : f.step bytes with
    | none =>
      simp only [Filter.settle, hstep, Option.some.injEq] at h
      rw [← h, hstep]
    | some next =>
      simp only [Filter.settle, hstep] at h
      exact ih h

theorem Filter.replace_of_replace {f : Filter} {bytes out : Bytes}
    (h : f.replace bytes = some out) : f.replace out = none := by
  obtain ⟨next, -, hsettle⟩ := Option.bind_eq_some_iff.mp h
  rw [Filter.replace, Filter.step_of_settle hsettle]
  rfl

theorem Filter.replace_of_forall_isMatch {f : Filter} {bytes : Bytes}
    (h : ∀ r ∈ f.rules, r.pattern.isMatch (ControlSequence.strip bytes) = false) :
    f.replace bytes = none := by
  have hstep : f.step bytes = none := by
    refine List.findSome?_eq_none_iff.mpr fun r hr => ?_
    have hsearch := h r hr
    rw [Regex.Pattern.isMatch, Option.isSome_eq_false_iff, Option.isNone_iff_eq_none] at hsearch
    rw [Regex.Pattern.captures?, hsearch]
    rfl
  rw [Filter.replace, hstep]
  rfl

/-! ### Filtering twice -/

theorem Filter.line_of_replace_none {f : Filter} {line : Bytes}
    (h : f.replace (content line) = none) : f.line line = line := by
  simp [Filter.line, Filter.replaceLine, h]

theorem Filter.line_of_replace_some {f : Filter} {line out : Bytes}
    (h : f.replace (content line) = some out) : f.line line = out ++ terminator line := by
  simp [Filter.line, Filter.replaceLine, h]

private theorem Filter.line_eq_self_iff (f : Filter) (line : Bytes) :
    f.line line = line ↔ f.replace (content line) = none := by
  refine ⟨fun h => ?_, Filter.line_of_replace_none⟩
  cases hreplace : f.replace (content line) with
  | none => rfl
  | some out =>
    have hsame : out ++ terminator line = content line ++ terminator line := by
      rw [← Filter.line_of_replace_some hreplace, h, content_append_terminator]
    have hout := List.append_cancel_right hsame
    have hsettled := Filter.replace_of_replace hreplace
    rw [hout, hreplace] at hsettled
    exact absurd hsettled (by simp)

/-- A second pass leaves a line as the first one did, unless the end of what the line was replaced
by has become a part of its terminator and a rule matches what is left before it. -/
theorem line_line_eq_iff (f : Filter) (line : Bytes) :
    f.line (f.line line) = f.line line ↔
      ∀ kept moved, f.replace (content line) = some (kept ++ moved) → moved ≠ [] →
        terminator (f.line line) = moved ++ terminator line → f.replace kept = none := by
  rw [Filter.line_eq_self_iff]
  cases hreplace : f.replace (content line) with
  | none => simp [Filter.line_of_replace_none hreplace, hreplace]
  | some out =>
    have hline := Filter.line_of_replace_some hreplace
    obtain ⟨kept, moved, rfl, hmoved⟩ := exists_moved out line
    rw [← hline] at hmoved
    have hcontent : content (f.line line) = kept := by
      rw [hline, List.append_assoc]
      exact content_append (by rw [← List.append_assoc, ← hline, hmoved])
    rw [hcontent]
    constructor
    · intro hkept kept' moved' heq _ hmoved'
      have hsame : moved' = moved := List.append_cancel_right (hmoved'.symm.trans hmoved)
      subst hsame
      rwa [List.append_cancel_right (Option.some.inj heq)] at hkept
    · intro h
      -- When nothing has moved, what is left of the content is the replacement, which is settled.
      by_cases hnone : moved = []
      · have hsettled := Filter.replace_of_replace hreplace
        rwa [hnone, List.append_nil] at hsettled
      · exact h kept moved rfl hnone hmoved

/-- The replacement of one rule ends in a carriage return, and the other rule matches it without
that. -/
theorem line_line_ne_carriageReturn :
    ∃ f, Filter.compile [⟨"x", "y\r"⟩, ⟨"y$", "z"⟩] = .ok f ∧
      f.line (Bytes.ofString "x\n") = Bytes.ofString "y\r\n" ∧
      f.line (f.line (Bytes.ofString "x\n")) = Bytes.ofString "z\r\n" := by
  have hrun : (Filter.compile [⟨"x", "y\r"⟩, ⟨"y$", "z"⟩]).toOption.map (fun f =>
      (f.line (Bytes.ofString "x\n"), f.line (f.line (Bytes.ofString "x\n")))) =
      some (Bytes.ofString "y\r\n", Bytes.ofString "z\r\n") := by
    decide +kernel
  cases hcompile : Filter.compile [⟨"x", "y\r"⟩, ⟨"y$", "z"⟩] with
  | error cause => simp [hcompile, Except.toOption] at hrun
  | ok f =>
    simp only [hcompile, Except.toOption, Option.map_some, Option.some.injEq,
      Prod.mk.injEq] at hrun
    exact ⟨f, rfl, hrun⟩

end PxeLaunch.Noise

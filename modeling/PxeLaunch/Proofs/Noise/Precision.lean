import PxeLaunch.Proofs.Noise.Compilation
import PxeLaunch.Proofs.Noise.Idempotence
import PxeLaunch.Proofs.Regex.Anchor

/-!
Where the rules of a filter match. A pattern is tied to the start of the line by the text that is
put around it, which does what it should as long as the pattern is a notation by itself. Main
statement: a filter of such patterns replaces a line only if one of its rules has a match that
begins with the line.
-/

set_option autoImplicit false

namespace PxeLaunch

/-- Whether a pattern is a notation by itself. A pattern that closes a group which it has not opened
is none, though it may become one when parentheses are put around it. -/
def NoisePattern.StandsAlone (n : NoisePattern) : Prop :=
  (Regex.parse? n.pattern.toList).isSome = true

instance (n : NoisePattern) : Decidable n.StandsAlone :=
  inferInstanceAs (Decidable ((Regex.parse? n.pattern.toList).isSome = true))

private theorem Profile.matchesAlike_of_standsAlone {p : Profile}
    (h : ∀ n ∈ p.noise, n.StandsAlone) : p.MatchesAlike := by
  intro t ht _ m _
  obtain ⟨n, hn, hcompile⟩ := List.mem_filterMap.mp ht
  exact Regex.Pattern.isMatch_bytes_of_text_of_isSome (h n hn) (toOption_eq_some.mp hcompile) _

namespace Noise

variable {patterns : List NoisePattern} {f : Filter}

private theorem Filter.exists_compile_of_mem (h : Filter.compile patterns = .ok f) {r : Rule}
    (hr : r ∈ f.rules) :
    ∃ n ∈ patterns, Regex.Pattern.compile .bytes n.anchored = .ok r.pattern := by
  have hall := forall₂_of_mapM_eq_ok (Filter.compile_eq_ok.mp h).1
  obtain ⟨n, hn, hcompile⟩ := exists_mem_of_forall₂ hall hr
  exact ⟨n, hn, (Rule.compile_eq_ok.mp hcompile).1⟩

private theorem Filter.exists_isMatch_of_line_ne {line : Bytes} (h : f.line line ≠ line) :
    ∃ r ∈ f.rules, r.pattern.isMatch (ControlSequence.strip (content line)) = true := by
  by_contra hnone
  exact h (Filter.line_of_replace_none (Filter.replace_of_forall_isMatch (by simpa using hnone)))

/-- A filter of patterns that are notations by themselves replaces a line only if some rule has a
match at the start of what is visible of it, as no rule has a match anywhere else. The patterns of a
valid profile make such a filter. -/
theorem line_ne_imp_hasMatchAt_zero (hown : ∀ n ∈ patterns, n.StandsAlone) :
    (∀ p : Profile, p.isValid = true → p.noise = patterns →
      ∃ f, Filter.compile patterns = .ok f) ∧
    ∀ f, Filter.compile patterns = .ok f →
      (∀ line, f.line line ≠ line →
        ∃ r ∈ f.rules, r.pattern.HasMatchAt (ControlSequence.strip (content line)) 0) ∧
      ∀ r ∈ f.rules, ∀ text offset, r.pattern.HasMatchAt text offset → offset = 0 := by
  refine ⟨?_, fun f hf => ⟨fun line hline => ?_, fun r hr text offset hmatch => ?_⟩⟩
  · rintro p hvalid rfl
    obtain ⟨f, hf, -⟩ := Profile.exists_compile_of_isValid hvalid
      (Profile.matchesAlike_of_standsAlone hown)
    exact ⟨f, hf⟩
  · obtain ⟨r, hr, hmatch⟩ := Filter.exists_isMatch_of_line_ne hline
    obtain ⟨n, hn, hcompile⟩ := Filter.exists_compile_of_mem hf hr
    exact ⟨r, hr, (Regex.Pattern.isMatch_iff_hasMatchAt_zero (hown n hn) hcompile
      (.inl rfl)).mp hmatch⟩
  · obtain ⟨n, hn, hcompile⟩ := Filter.exists_compile_of_mem hf hr
    exact hmatch.eq_zero (hown n hn) hcompile

theorem line_ne_imp_hasMatchAt_zero_branches :
    let patterns : List NoisePattern := [⟨"bds: *|boot *", "[uefi]"⟩]
    let line := Bytes.ofString "\u001b[2Jboot 1\n"
    (∀ n ∈ patterns, n.StandsAlone) ∧ ∃ f, Filter.compile patterns = .ok f ∧ f.line line ≠ line ∧
      (∃ r ∈ f.rules, r.pattern.HasMatchAt (Bytes.ofString "boot 1") 0) ∧
      ∀ r ∈ f.rules, ∀ text offset, r.pattern.HasMatchAt text offset → offset = 0 := by
  intro patterns line
  have hown : ∀ n ∈ patterns, n.StandsAlone := by decide +kernel
  have hrun : (Filter.compile patterns).toOption.map (·.line line) =
      some (Bytes.ofString "[uefi]\n") := by
    decide +kernel
  obtain ⟨f, hf, hout⟩ := Option.map_eq_some_iff.mp hrun
  have hne : f.line line ≠ line := by
    rw [hout]
    decide
  obtain ⟨hline, hoffset⟩ := (line_ne_imp_hasMatchAt_zero hown).2 f (toOption_eq_some.mp hf)
  exact ⟨hown, f, toOption_eq_some.mp hf, hne, hline line hne, hoffset⟩

/-- A profile whose pattern closes the group that is put around it. Its second branch is not tied to
the start of the line. -/
def straying : Profile := { Profile.riscv64 with noise := [⟨"a)|(?:b", "x"⟩] }

/-- Without that condition, a rule may replace a line that it has no match at the start of. -/
theorem line_ne_of_not_hasMatchAt_zero_straying :
    let line := Bytes.ofString "cb\n"
    straying.isValid = true ∧ ∃ f, Filter.compile straying.noise = .ok f ∧
      f.line line = Bytes.ofString "x\n" ∧
      ∀ r ∈ f.rules, ¬r.pattern.HasMatchAt (ControlSequence.strip (content line)) 0 := by
  intro line
  have hrun : (Filter.compile straying.noise).toOption.map (fun f => (f.line line,
      decide (∀ r ∈ f.rules, ∀ q ∈ [0, 1, 2, 3, 5], ∀ i ∈ r.pattern.program.code[q]?,
        (∀ t ∈ i.targetsAt ⟨[], Bytes.ofString "cb"⟩ q, t ∈ [0, 1, 2, 3, 5]) ∧
          i ≠ .accept ∧ i.reads ⟨[], Bytes.ofString "cb"⟩ = none))) =
      some (Bytes.ofString "x\n", true) := by
    decide +kernel
  obtain ⟨f, hf, hboth⟩ := Option.map_eq_some_iff.mp hrun
  obtain ⟨hout, hclosed⟩ := Prod.mk.inj hboth
  refine ⟨by decide +kernel, f, toOption_eq_some.mp hf, hout, fun r hr hmatch => ?_⟩
  exact Regex.not_accepts_of_closed (of_decide_eq_true hclosed r hr) (by simp) hmatch.2

end Noise

end PxeLaunch

import PxeLaunch.Launch.Lifecycle
import PxeLaunch.Profile.Builtin
import PxeLaunch.Proofs.Profile.Registry
import PxeLaunch.Proofs.Regex.Agreement

/-!
The noise filter of a valid profile. A profile is checked with patterns for text, and its filter is
made of patterns for bytes. Main statement: what has passed the one makes the other.
-/

set_option autoImplicit false

namespace PxeLaunch

/-! ### What a valid profile has been checked for -/

namespace Profile

variable {p : Profile}

private theorem exists_compileNoise_of_isValid (h : p.isValid = true) {n : NoisePattern}
    (hn : n ∈ p.noise) : ∃ t, compileNoise n = .ok t := by
  cases hcompile : compileNoise n with
  | ok t => exact ⟨t, rfl⟩
  | error cause =>
    have hissue : Issue.badPattern n.pattern cause ∈ patternIssues p.noise :=
      List.mem_filterMap.mpr ⟨n, hn, by rw [hcompile]⟩
    have hfalse := isError_eq_false_of_isValid h (i := .badPattern n.pattern cause)
      (by simp [issues, hissue])
    simp [Issue.isError, Issue.severity] at hfalse

private theorem mem_compiledNoise {ns : List NoisePattern} {n : NoisePattern} (hn : n ∈ ns)
    {t : Regex.Pattern} (ht : compileNoise n = .ok t) : t ∈ compiledNoise ns :=
  List.mem_filterMap.mpr ⟨n, hn, toOption_eq_some.mpr ht⟩

private theorem isMatch_eq_false_of_isValid (h : p.isValid = true) {n m : NoisePattern}
    (hn : n ∈ p.noise) (hm : m ∈ p.noise) {t : Regex.Pattern} (ht : compileNoise n = .ok t) :
    t.isMatch (Bytes.ofString m.replacement) = false := by
  by_contra hmatch
  obtain ⟨c, hc⟩ := Option.isSome_iff_exists.mp
    (List.find?_isSome.mpr ⟨t, mem_compiledNoise hn ht, by simpa using hmatch⟩ :
      ((compiledNoise p.noise).find? fun c => c.isMatch (Bytes.ofString m.replacement)).isSome)
  have hissue : Issue.selfMatching m.replacement c.source ∈ replacementIssues p.noise :=
    List.mem_filterMap.mpr ⟨m, hm, by rw [hc]; rfl⟩
  have hfalse := isError_eq_false_of_isValid h (i := .selfMatching m.replacement c.source)
    (by simp [issues, hissue])
  simp [Issue.isError, Issue.severity] at hfalse

end Profile

namespace Noise

theorem Filter.compile_eq_ok {patterns : List NoisePattern} {f : Filter} :
    Filter.compile patterns = .ok f ↔ patterns.mapM Rule.compile = .ok f.rules ∧
      ∀ r ∈ f.rules, f.catcher? (Bytes.ofString r.replacement) = none := by
  rw [Filter.compile]
  simp only [bind_eq_ok]
  constructor
  · rintro ⟨rules, hrules, hf⟩
    split at hf
    · simp at hf
    · next hnone =>
      rw [← Except.ok.inj hf]
      refine ⟨hrules, fun r hr => ?_⟩
      simpa using List.findSome?_eq_none_iff.mp hnone r hr
  · rintro ⟨hrules, hnone⟩
    refine ⟨f.rules, hrules, ?_⟩
    have hfind : (f.rules.findSome? fun r => (f.catcher? (Bytes.ofString r.replacement)).map
        fun c => (r.replacement, c.pattern.source)) = none :=
      List.findSome?_eq_none_iff.mpr fun r hr => by rw [hnone r hr]; rfl
    rw [hfind]

theorem Rule.compile_eq_ok {n : NoisePattern} {r : Rule} :
    Rule.compile n = .ok r ↔
      Regex.Pattern.compile .bytes n.anchored = .ok r.pattern ∧ r.replacement = n.replacement := by
  unfold Rule.compile
  cases Regex.Pattern.compile .bytes n.anchored with
  | error cause => simp
  | ok pattern =>
    obtain ⟨pattern', replacement⟩ := r
    simp [eq_comm]

end Noise

namespace Profile

open Noise (Rule Filter)

/-- For text and for bytes, the noise patterns of a profile match the same replacements. That is so
for all patterns but those with a condition that holds inside a character. -/
def MatchesAlike (p : Profile) : Prop :=
  ∀ t ∈ compiledNoise p.noise, t.program.looksInside = true → ∀ m ∈ p.noise,
    { t with subject := .bytes }.isMatch (Bytes.ofString m.replacement) =
      t.isMatch (Bytes.ofString m.replacement)

instance (p : Profile) : Decidable p.MatchesAlike :=
  inferInstanceAs (Decidable (∀ t ∈ compiledNoise p.noise, _))

variable {p : Profile}

private theorem not_isMatch_of_isValid (h : p.isValid = true) (halike : p.MatchesAlike)
    {n m : NoisePattern}
    (hn : n ∈ p.noise) (hm : m ∈ p.noise) {r : Rule} (hr : Rule.compile n = .ok r) :
    r.pattern.isMatch (Bytes.ofString m.replacement) = false := by
  obtain ⟨t, ht⟩ := exists_compileNoise_of_isValid h hn
  have hpattern : r.pattern = { t with subject := .bytes } := Except.ok.inj
    ((Rule.compile_eq_ok.mp hr).1.symm.trans (Regex.Pattern.compile_bytes_of_text ht))
  have hmatch : { t with subject := .bytes }.isMatch (Bytes.ofString m.replacement) =
      t.isMatch (Bytes.ofString m.replacement) := by
    cases hlooks : t.program.looksInside with
    | true => exact halike t (mem_compiledNoise hn ht) hlooks m hm
    | false => exact Regex.Pattern.isMatch_bytes_of_text ht hlooks m.replacement
  rw [hpattern, hmatch, isMatch_eq_false_of_isValid h hn hm ht]

theorem exists_compile_of_isValid (h : p.isValid = true) (halike : p.MatchesAlike) :
    ∃ f, Filter.compile p.noise = .ok f ∧
      List.Forall₂ (fun n r => Rule.compile n = .ok r) p.noise f.rules := by
  have hcompile : ∀ n ∈ p.noise, ∃ r, Rule.compile n = .ok r := fun n hn => by
    obtain ⟨t, ht⟩ := exists_compileNoise_of_isValid h hn
    exact ⟨⟨{ t with subject := .bytes }, n.replacement⟩,
      Rule.compile_eq_ok.mpr ⟨Regex.Pattern.compile_bytes_of_text ht, rfl⟩⟩
  obtain ⟨rules, hrules, hall⟩ := exists_mapM_eq_ok hcompile
  refine ⟨⟨rules⟩, Filter.compile_eq_ok.mpr ⟨hrules, fun r hr => ?_⟩, hall⟩
  refine List.find?_eq_none.mpr fun c hc => ?_
  obtain ⟨m, hm, hmr⟩ := exists_mem_of_forall₂ hall hr
  obtain ⟨n, hn, hnc⟩ := exists_mem_of_forall₂ hall hc
  rw [(Rule.compile_eq_ok.mp hmr).2, not_isMatch_of_isValid h halike hn hm hnc]
  exact Bool.false_ne_true

/-- The noise patterns of a valid profile make a filter, which has a rule for each of them in their
order. -/
theorem exists_filter_of_isValid (h : p.isValid = true) (halike : p.MatchesAlike) :
    ∃ f, Filter.compile p.noise = .ok f ∧
      List.Forall₂ (fun n r => Regex.Pattern.compile .bytes n.anchored = .ok r.pattern ∧
        r.replacement = n.replacement) p.noise f.rules ∧
      ∀ o : Launch, o.profile = p → o.filter = .ok f := by
  obtain ⟨f, hfilter, hall⟩ := exists_compile_of_isValid h halike
  refine ⟨f, hfilter, hall.imp fun n r hr => Rule.compile_eq_ok.mp hr, fun o ho => ?_⟩
  rw [Launch.filter, ho, hfilter]

/-- A profile with a pattern whose condition holds inside characters, and a replacement with such a
character. -/
def bounded : Profile :=
  { riscv64 with noise := [⟨"Boot(?-u:\\B)", "[Gerät]"⟩, ⟨"BdsDxe: ", "[BdsDxe]"⟩] }

theorem exists_filter_of_isValid_bounded : bounded.isValid = true ∧ bounded.MatchesAlike ∧
    ∃ f, Filter.compile bounded.noise = .ok f ∧
      List.Forall₂ (fun n r => Regex.Pattern.compile .bytes n.anchored = .ok r.pattern ∧
        r.replacement = n.replacement) bounded.noise f.rules ∧
      ∀ o : Launch, o.profile = bounded → o.filter = .ok f :=
  have hvalid : bounded.isValid = true := by decide +kernel
  have halike : bounded.MatchesAlike := by decide +kernel
  ⟨hvalid, halike, exists_filter_of_isValid hvalid halike⟩

/-- A profile whose pattern is not tied to the start of the line as a whole. Its second branch
matches inside the second letter of the replacement, but nowhere between two letters. -/
def unbounded : Profile :=
  { riscv64 with noise := [⟨"x)|(?:(?-u:\\B)", "aéa"⟩] }

/-- Without that condition, a valid profile may have no filter. -/
private theorem filter_ne_ok_unbounded : unbounded.isValid = true ∧ ¬unbounded.MatchesAlike ∧
    ∀ f, Filter.compile unbounded.noise ≠ .ok f := by
  have hnone : (Filter.compile unbounded.noise).toOption.isNone = true := by decide +kernel
  refine ⟨by decide +kernel, by decide +kernel, fun f hf => ?_⟩
  simp [toOption_eq_some.mpr hf] at hnone

end Profile

end PxeLaunch

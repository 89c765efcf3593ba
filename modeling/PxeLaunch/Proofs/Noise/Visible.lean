import PxeLaunch.Proofs.Noise.Compilation
import PxeLaunch.Proofs.Noise.ControlSequence
import PxeLaunch.Proofs.Noise.Rewriting

/-!
What rules see. Rules are compared with content that has its control sequences left out, whereas
replacements are looked at as they are written when a filter is made. Main statements: control
sequences in a line make no difference to what takes the place of its content; and a replacement
without references stands for itself exactly if no rule matches what is visible of it.
-/

set_option autoImplicit false

namespace PxeLaunch

/-! ### Plain templates -/

namespace Regex

private theorem Piece.parseFrom_of_not_mem {template : List Char} (h : '$' ∉ template) {fuel : Nat}
    (hfuel : template.length ≤ fuel) : Piece.parseFrom fuel template = template.map .char := by
  induction template generalizing fuel with
  | nil => cases fuel <;> rfl
  | cons c template ih =>
    obtain ⟨hc, hrest⟩ := not_or.mp (mt List.mem_cons.mpr h)
    obtain ⟨fuel, rfl⟩ : ∃ less, fuel = less + 1 := ⟨fuel - 1, by simp at hfuel; omega⟩
    unfold Piece.parseFrom
    rw [if_pos (by simpa using Ne.symm hc), ih hrest (by simpa using hfuel), List.map_cons]

private theorem Captures.expand_of_not_mem (c : Captures) {template : String}
    (h : '$' ∉ template.toList) : c.expand template = Bytes.ofString template := by
  rw [Captures.expand, Piece.parse,
    Piece.parseFrom_of_not_mem h (Nat.le_of_eq String.length_toList), List.flatMap_map]
  rfl

end Regex

namespace Noise

variable {f : Filter}

/-! ### Content with control sequences in it -/

private theorem Filter.replace_congr {bytes other : Bytes}
    (h : ControlSequence.strip bytes = ControlSequence.strip other) :
    f.replace bytes = f.replace other := by
  have hstep : f.step bytes = f.step other := by rw [Filter.step, Filter.step, h]
  rw [Filter.replace, Filter.replace, hstep]

private theorem Filter.replace_of_weaves {bytes woven : Bytes}
    (h : ControlSequence.Weaves bytes woven)
    (hclean : Bytes.escape ∉ bytes) : f.replace woven = f.replace bytes :=
  Filter.replace_congr ((h.strip_eq hclean).trans (ControlSequence.strip_of_not_mem hclean).symm)

/-- Control sequences that are put between the bytes of some content are all that is left out of it
again, and the same takes its place as without them. If nothing does, the line is forwarded with
them. -/
theorem line_of_weaves (f : Filter) {bytes woven : Bytes}
    (h : ControlSequence.Weaves bytes woven) (hclean : Bytes.escape ∉ bytes) :
    ControlSequence.strip woven = bytes ∧
      (∀ out, f.replace woven = some out ↔ f.replace bytes = some out) ∧
      ∀ line, content line = woven →
        (∀ out, f.replace bytes = some out → f.line line = out ++ terminator line) ∧
        (f.replace bytes = none → f.line line = line) := by
  have hreplace : f.replace woven = f.replace bytes := Filter.replace_of_weaves h hclean
  refine ⟨h.strip_eq hclean, fun out => by rw [hreplace], ?_⟩
  rintro line rfl
  refine ⟨fun out hout => ?_, fun hnone => ?_⟩
  · exact Filter.line_of_replace_some (hreplace.trans hout)
  · exact Filter.line_of_replace_none (hreplace.trans hnone)

theorem line_of_weaves_boot :
    let bytes := Bytes.ofString "Bds: x"
    let woven := Bytes.ofString "\u001b[2J\u001b[01;01HBd\u001b[ !ps: x\u001b[0m"
    let line := Bytes.ofString "\u001b[2J\u001b[01;01HBd\u001b[ !ps: x\u001b[0m\r\n"
    ControlSequence.Weaves bytes woven ∧ Bytes.escape ∉ bytes ∧
      ∃ f, Filter.compile [⟨"Bds: (.*)", "[$1]"⟩] = .ok f ∧ content line = woven ∧
        f.replace bytes = some (Bytes.ofString "[x]") ∧
        f.line line = Bytes.ofString "[x]" ++ terminator line := by
  intro bytes woven line
  have hclean : Bytes.escape ∉ bytes := by decide
  have hweaves : ControlSequence.Weaves bytes woven :=
    (ControlSequence.strip_eq_iff_weaves hclean).mp (by decide +kernel)
  have hrun : (Filter.compile [⟨"Bds: (.*)", "[$1]"⟩]).toOption.map (·.replace bytes) =
      some (some (Bytes.ofString "[x]")) := by
    decide +kernel
  obtain ⟨f, hf, hout⟩ := Option.map_eq_some_iff.mp hrun
  have hcontent : content line = woven := by decide +kernel
  obtain ⟨-, -, hline⟩ := line_of_weaves f hweaves hclean
  exact ⟨hweaves, hclean, f, toOption_eq_some.mp hf, hcontent, hout, (hline line hcontent).1 _ hout⟩

/-! ### Plain replacements -/

private theorem Filter.step_of_catcher? {r : Rule} {bytes : Bytes}
    (hplain : '$' ∉ r.replacement.toList) (h : f.catcher? (ControlSequence.strip bytes) = some r) :
    f.step bytes = some (Bytes.ofString r.replacement) := by
  obtain ⟨hmatch, before, after, hrules, hbefore⟩ := List.find?_eq_some_iff_append.mp h
  obtain ⟨captures, hcaptures⟩ :
      ∃ c, r.pattern.captures? (ControlSequence.strip bytes) = some c := by
    cases hcaptures : r.pattern.captures? (ControlSequence.strip bytes) with
    | none => simp [Filter.isMatch_eq_false_iff_captures?.mpr hcaptures] at hmatch
    | some c => exact ⟨c, rfl⟩
  exact Filter.step_eq_some_iff.mpr ⟨before, r, after, captures, hrules, by simpa using hbefore,
    hcaptures, (captures.expand_of_not_mem hplain).symm⟩

private theorem Filter.settle_of_step_self {bytes : Bytes} (h : f.step bytes = some bytes)
    (passes : Nat) : f.settle passes bytes = none := by
  induction passes with
  | zero => rfl
  | succ passes ih => simp only [Filter.settle, h, ih]

/-- Content that becomes a plain replacement in one step comes out as that replacement if no rule
matches this in its turn, and if it was that replacement from the start, but not otherwise. -/
private theorem Filter.line_eq_append_iff_of_step {line out : Bytes}
    (h : f.step (content line) = some out) :
    f.line line = out ++ terminator line ↔ f.step out = none ∨ content line = out := by
  have hreplace : f.replace (content line) = f.settle Filter.maxSteps out := by
    rw [Filter.replace, h, Option.bind_some]
  cases hsettled : f.step out with
  | none =>
    have hout : f.replace (content line) = some out :=
      hreplace.trans (Filter.settle_eq_some_iff.mpr ⟨0, by decide, rfl, hsettled⟩)
    simp [Filter.line_of_replace_some hout]
  | some next =>
    simp only [reduceCtorEq, false_or]
    constructor
    · intro hline
      cases hlast : f.replace (content line) with
      | none =>
        rw [Filter.line_of_replace_none hlast] at hline
        exact List.append_cancel_right ((content_append_terminator line).trans hline)
      | some final =>
        rw [Filter.line_of_replace_some hlast] at hline
        have hfinal : f.step final = none := Filter.step_of_settle (hreplace.symm.trans hlast)
        rw [List.append_cancel_right hline, hsettled] at hfinal
        cases hfinal
    · rintro rfl
      rw [Filter.line_of_replace_none (hreplace.trans (Filter.settle_of_step_self h _)),
        content_append_terminator]

/-- No rule of a filter matches a replacement as it is written, and so none matches what is visible
of a replacement without control sequences. A line that is first matched by a rule without
references comes out as the replacement exactly if no rule matches what is visible of that, or if
the replacement is what the line held before. -/
theorem line_eq_replacement_append_iff {patterns : List NoisePattern}
    (h : Filter.compile patterns = .ok f) {r : Rule} (hr : r ∈ f.rules)
    (hplain : '$' ∉ r.replacement.toList) :
    ((∀ s, ControlSequence.IsSequence s → ¬s <:+: Bytes.ofString r.replacement) →
      ∀ q ∈ f.rules,
        q.pattern.isMatch (ControlSequence.strip (Bytes.ofString r.replacement)) = false) ∧
      ∀ line, f.catcher? (ControlSequence.strip (content line)) = some r →
        (f.line line = Bytes.ofString r.replacement ++ terminator line ↔
          (∀ q ∈ f.rules,
            q.pattern.isMatch (ControlSequence.strip (Bytes.ofString r.replacement)) = false) ∨
          content line = Bytes.ofString r.replacement) := by
  refine ⟨fun hnone q hq => ?_, fun line hline => ?_⟩
  · have hraw : f.catcher? (Bytes.ofString r.replacement) = none :=
      (Filter.compile_eq_ok.mp h).2 r hr
    rw [ControlSequence.strip_eq_self_iff.mpr hnone]
    simpa using List.find?_eq_none.mp hraw q hq
  · rw [Filter.line_eq_append_iff_of_step (Filter.step_of_catcher? hplain hline),
      Filter.step_eq_none_iff]

theorem line_eq_replacement_append_iff_dimmed :
    let patterns : List NoisePattern := [⟨"Bds", "\u001b[2m[Bds]\u001b[0m"⟩, ⟨"x", "y"⟩]
    let line := Bytes.ofString "\u001b[2JBds: x\r\n"
    ∃ f r, Filter.compile patterns = .ok f ∧ r ∈ f.rules ∧ '$' ∉ r.replacement.toList ∧
      f.catcher? (ControlSequence.strip (content line)) = some r ∧
      f.line line = Bytes.ofString r.replacement ++ terminator line := by
  intro patterns line
  have hrun : (Filter.compile patterns).toOption.map (fun f => (f.rules.map fun r =>
      (r.replacement, r.pattern.isMatch (ControlSequence.strip (content line))),
        f.step (Bytes.ofString "\u001b[2m[Bds]\u001b[0m"))) =
      some ([("\u001b[2m[Bds]\u001b[0m", true), ("y", false)], none) := by
    decide +kernel
  obtain ⟨f, hf, hboth⟩ := Option.map_eq_some_iff.mp hrun
  obtain ⟨hrules, hsettled⟩ := Prod.mk.inj hboth
  obtain ⟨r, others, hf_rules, hr, -⟩ := List.map_eq_cons_iff.mp hrules
  obtain ⟨hreplacement, hmatch⟩ := Prod.mk.inj hr
  have hmem : r ∈ f.rules := by simp [hf_rules]
  have hplain : '$' ∉ r.replacement.toList := by
    rw [hreplacement]
    decide
  have hcatcher : f.catcher? (ControlSequence.strip (content line)) = some r := by
    simp [Filter.catcher?, hf_rules, hmatch]
  obtain ⟨-, hline⟩ := line_eq_replacement_append_iff (toOption_eq_some.mp hf) hmem hplain
  refine ⟨f, r, toOption_eq_some.mp hf, hmem, hplain, hcatcher, (hline line hcatcher).mpr (.inl ?_)⟩
  rw [hreplacement]
  exact Filter.step_eq_none_iff.mp hsettled

/-- A rule that matches its own replacement without the control sequence. The line never settles,
and so it stays as it is. -/
theorem line_ne_replacement_append_coloured :
    let line := Bytes.ofString "x\n"
    ∃ f r, Filter.compile [⟨"x", "\u001b[0mx"⟩] = .ok f ∧ r ∈ f.rules ∧
      '$' ∉ r.replacement.toList ∧ f.catcher? (ControlSequence.strip (content line)) = some r ∧
      r.pattern.isMatch (ControlSequence.strip (Bytes.ofString r.replacement)) = true ∧
      f.line line = line ∧ f.line line ≠ Bytes.ofString r.replacement ++ terminator line := by
  intro line
  have hrun : (Filter.compile [⟨"x", "\u001b[0mx"⟩]).toOption.map (fun f => (f.rules.map fun r =>
      (r.replacement, r.pattern.isMatch (ControlSequence.strip (content line))), f.line line)) =
      some ([("\u001b[0mx", true)], line) := by
    decide +kernel
  obtain ⟨f, hf, hboth⟩ := Option.map_eq_some_iff.mp hrun
  obtain ⟨hrules, hline⟩ := Prod.mk.inj hboth
  obtain ⟨r, hf_rules, hr⟩ := List.map_eq_singleton_iff.mp hrules
  obtain ⟨hreplacement, hmatch⟩ := Prod.mk.inj hr
  have hcatcher : f.catcher? (ControlSequence.strip (content line)) = some r := by
    simp [Filter.catcher?, hf_rules, hmatch]
  have hvisible : ControlSequence.strip (Bytes.ofString r.replacement) =
      ControlSequence.strip (content line) := by
    rw [hreplacement]
    decide +kernel
  refine ⟨f, r, toOption_eq_some.mp hf, by simp [hf_rules], ?_, hcatcher, ?_, hline, ?_⟩
  · rw [hreplacement]
    decide
  · rw [hvisible, hmatch]
  · rw [hline, hreplacement]
    decide +kernel

end Noise

end PxeLaunch

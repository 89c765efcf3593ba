import PxeLaunch.Proofs.Noise.Idempotence
import PxeLaunch.Proofs.Noise.Pump
import PxeLaunch.Proofs.Result

/-!
Lines that come in several chunks, cut anywhere. The rules are compared with the first chunk alone,
and a chunk's terminator is looked for in that chunk alone. Main statements: a line is forwarded as
it is if no rule matches its first chunk; a line whose first chunk is replaced keeps its terminator
unless the terminator itself is cut.
-/

set_option autoImplicit false

namespace PxeLaunch.Noise

def asChunks : List Bytes → List Chunk
  | [] => []
  | first :: others => ⟨first, true⟩ :: others.map (⟨·, false⟩)

/-- Whether a line, which has a newline at most at its end, is cut into these parts. -/
structure IsCut (line : Bytes) (parts : List Bytes) : Prop where
  flatten_eq : parts.flatten = line
  ne_nil : ∀ part ∈ parts, part ≠ []
  not_mem_dropLast : Bytes.newline ∉ line.dropLast

instance (line : Bytes) (parts : List Bytes) : Decidable (IsCut line parts) :=
  decidable_of_iff (parts.flatten = line ∧ (∀ part ∈ parts, part ≠ []) ∧
      Bytes.newline ∉ line.dropLast)
    ⟨fun ⟨hflatten, hne, hclean⟩ => ⟨hflatten, hne, hclean⟩,
      fun h => ⟨h.flatten_eq, h.ne_nil, h.not_mem_dropLast⟩⟩

section

variable {line first last : Bytes} {start others : List Bytes}

private theorem IsCut.not_mem (h : IsCut line (start ++ [last])) :
    ∀ part ∈ start, Bytes.newline ∉ part := by
  have hlast : last ≠ [] := h.ne_nil last (by simp)
  have hdropLast := h.not_mem_dropLast
  rw [← h.flatten_eq, List.flatten_append, List.flatten_singleton,
    List.dropLast_append_of_ne_nil hlast] at hdropLast
  intro part hpart hmem
  exact hdropLast (List.mem_append_left _ (List.mem_flatten_of_mem hpart hmem))

private theorem marked_false_of_not_mem (hstart : ∀ part ∈ start, Bytes.newline ∉ part)
    (last : Bytes) : marked false (start ++ [last]) = (start ++ [last]).map (⟨·, false⟩) := by
  induction start with
  | nil => rfl
  | cons part start ih =>
    obtain ⟨hpart, hstart⟩ := List.forall_mem_cons.mp hstart
    rw [List.cons_append, marked, endsLine_of_not_mem hpart, ih hstart, List.map_cons]

private theorem flatten_chunks_asChunks (f : Filter) (s : LineState)
    (h : IsCut line (first :: others)) :
    (f.chunks s (asChunks (first :: others))).flatten =
      match f.replace (content first) with
      | none => line
      | some out => out ++ terminator (others.getLastD first) := by
  rw [← h.flatten_eq]
  rcases List.eq_nil_or_concat others with rfl | ⟨start, last, rfl⟩
  · cases hreplace : f.replace (content first) <;>
      simp [asChunks, Filter.chunks, Filter.chunk, hreplace]
  · rw [List.concat_eq_append] at h ⊢
    have hclean : ∀ part ∈ first :: start, Bytes.newline ∉ part := IsCut.not_mem h
    obtain ⟨hfirst, hstart⟩ := List.forall_mem_cons.mp hclean
    have hend : endsLine last = true ∨ ([] : List Bytes) = [] := .inr rfl
    have hrest (replaced : Bool) := chunks_continued f replaced hstart hend
    have hquiet : (start.map terminator).flatten = [] := by
      simpa using fun part hpart => terminator_of_not_mem (hstart part hpart)
    rw [asChunks, ← marked_false_of_not_mem hstart]
    cases hreplace : f.replace (content first) with
    | none => simp [Filter.chunks, Filter.chunk, hreplace, hrest, marked]
    | some out =>
      simp [Filter.chunks, Filter.chunk, hreplace, hrest, marked, terminator_of_not_mem hfirst,
        hquiet]

/-- A line is forwarded as it is, however it is cut, if no rule matches its first part. -/
theorem flatten_chunks_eq_line (f : Filter) (s : LineState) (h : IsCut line (first :: others))
    (hfirst : ∀ r ∈ f.rules,
      r.pattern.isMatch (ControlSequence.strip (content first)) = false) :
    (f.chunks s (asChunks (first :: others))).flatten = line := by
  rw [flatten_chunks_asChunks f s h, Filter.replace_of_forall_isMatch hfirst]

theorem flatten_chunks_eq_line_abc :
    let line := Bytes.ofString "abc\r\n"
    let first := Bytes.ofString "ab"
    let others := [Bytes.ofString "c\r", Bytes.ofString "\n"]
    ∃ f, Filter.compile [⟨"abc$", "x"⟩] = .ok f ∧ IsCut line (first :: others) ∧
      (∀ r ∈ f.rules, r.pattern.isMatch (ControlSequence.strip (content first)) = false) ∧
      (f.chunks .start (asChunks (first :: others))).flatten = line := by
  intro line first others
  have hrun : (Filter.compile [⟨"abc$", "x"⟩]).toOption.map (fun f =>
      f.rules.all fun r => !r.pattern.isMatch (ControlSequence.strip (content first))) =
      some true := by
    decide +kernel
  obtain ⟨f, hf, hall⟩ := Option.map_eq_some_iff.mp hrun
  have hfirst : ∀ r ∈ f.rules,
      r.pattern.isMatch (ControlSequence.strip (content first)) = false := by
    simpa using hall
  have hcut : IsCut line (first :: others) := by decide
  exact ⟨f, toOption_eq_some.mp hf, hcut, hfirst, flatten_chunks_eq_line f .start hcut hfirst⟩

/-- The rule matches the first part of the line, but not the line as a whole, of which a replacement
and a newline are left. -/
theorem flatten_chunks_ne_line_abcdef :
    let line := Bytes.ofString "abcdef\n"
    let parts := [Bytes.ofString "abc", Bytes.ofString "def\n"]
    ∃ f, Filter.compile [⟨"abc$", "x"⟩] = .ok f ∧ IsCut line parts ∧
      (∀ r ∈ f.rules, r.pattern.isMatch (ControlSequence.strip (content line)) = false) ∧
      (f.chunks .start (asChunks parts)).flatten = Bytes.ofString "x\n" ∧
      Bytes.ofString "x\n" ≠ line := by
  intro line parts
  have hrun : (Filter.compile [⟨"abc$", "x"⟩]).toOption.map (fun f =>
      (f.rules.all fun r => !r.pattern.isMatch (ControlSequence.strip (content line)),
        (f.chunks .start (asChunks parts)).flatten)) = some (true, Bytes.ofString "x\n") := by
    decide +kernel
  obtain ⟨f, hf, hboth⟩ := Option.map_eq_some_iff.mp hrun
  obtain ⟨hall, hout⟩ := Prod.mk.inj hboth
  exact ⟨f, toOption_eq_some.mp hf, by decide, by simpa using hall, hout, by decide⟩

/-- A line whose first part is replaced keeps its terminator, unless that is cut between its
carriage return and its newline: then the carriage return is lost. -/
theorem flatten_chunks_eq_append_terminator_iff (f : Filter) (s : LineState)
    (h : IsCut line (first :: others)) {out : Bytes} (hout : f.replace (content first) = some out) :
    (f.chunks s (asChunks (first :: others))).flatten = out ++ terminator line ↔
      ¬(terminator line = [Bytes.carriageReturn, Bytes.newline] ∧
        others.getLast? = some [Bytes.newline]) := by
  rw [flatten_chunks_asChunks f s h, hout, ← h.flatten_eq]
  rcases List.eq_nil_or_concat others with rfl | ⟨start, last, rfl⟩
  · simp
  · rw [List.concat_eq_append] at h ⊢
    have hlast : last ≠ [] := h.ne_nil last (by simp)
    have hline : (first :: (start ++ [last])).flatten = (first :: start).flatten ++ last := by simp
    simp only [hline, terminator_append _ hlast, List.getLastD_concat, List.getLast?_concat,
      Option.some.injEq, List.append_cancel_left_eq]
    by_cases hnewline : last = [Bytes.newline]
    · -- The newline by itself is a terminator, but not that of the line if a carriage return
      -- stands before it.
      simp [hnewline, terminator]
    · simp [hnewline]

theorem flatten_chunks_eq_append_terminator_abc :
    let line := Bytes.ofString "abc\r\n"
    let first := Bytes.ofString "abc"
    let others := [Bytes.ofString "\r\n"]
    ∃ f, Filter.compile [⟨"abc", "x"⟩] = .ok f ∧ IsCut line (first :: others) ∧
      f.replace (content first) = some (Bytes.ofString "x") ∧
      (f.chunks .start (asChunks (first :: others))).flatten =
        Bytes.ofString "x" ++ terminator line := by
  intro line first others
  have hrun : (Filter.compile [⟨"abc", "x"⟩]).toOption.map (·.replace (content first)) =
      some (some (Bytes.ofString "x")) := by
    decide +kernel
  obtain ⟨f, hf, hout⟩ := Option.map_eq_some_iff.mp hrun
  have hcut : IsCut line (first :: others) := by decide
  exact ⟨f, toOption_eq_some.mp hf, hcut, hout,
    (flatten_chunks_eq_append_terminator_iff f .start hcut hout).mpr (by decide)⟩

theorem flatten_chunks_ne_append_terminator_abc :
    let line := Bytes.ofString "abc\r\n"
    let first := Bytes.ofString "abc\r"
    let others := [Bytes.ofString "\n"]
    ∃ f, Filter.compile [⟨"abc", "x"⟩] = .ok f ∧ IsCut line (first :: others) ∧
      f.replace (content first) = some (Bytes.ofString "x") ∧
      (f.chunks .start (asChunks (first :: others))).flatten ≠
        Bytes.ofString "x" ++ terminator line := by
  intro line first others
  have hrun : (Filter.compile [⟨"abc", "x"⟩]).toOption.map (fun f =>
      (f.replace (content first), (f.chunks .start (asChunks (first :: others))).flatten)) =
      some (some (Bytes.ofString "x"), Bytes.ofString "x\n") := by
    decide +kernel
  obtain ⟨f, hf, hboth⟩ := Option.map_eq_some_iff.mp hrun
  obtain ⟨hout, hflatten⟩ := Prod.mk.inj hboth
  exact ⟨f, toOption_eq_some.mp hf, by decide, hout, by rw [hflatten]; decide⟩

end

end PxeLaunch.Noise

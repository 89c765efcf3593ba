import PxeLaunch.Noise.ControlSequence

/-!
Where control sequences stand in a byte string. A sequence is told by its own bytes, so it ends
where it ends, whatever comes after it. Main statement: byte strings without an escape are what is
left of those that have control sequences put between their bytes, and of no others.
-/

set_option autoImplicit false

namespace PxeLaunch.ControlSequence

/-! ### Sequences -/

/-- Whether bytes are one control sequence: an escape, a bracket, any number of parameters and of
intermediates, and one final byte. -/
def IsSequence (s : Bytes) : Prop :=
  ∃ parameters intermediates last,
    s = Bytes.escape :: bracket :: (parameters ++ (intermediates ++ [last])) ∧
      (∀ b ∈ parameters, isParameter b = true) ∧
      (∀ b ∈ intermediates, isIntermediate b = true) ∧ isFinal last = true

/-- Whether `bytes` with control sequences put between them make up `woven`. -/
inductive Weaves : Bytes → Bytes → Prop
  | nil : Weaves [] []
  | byte (b : UInt8) {bytes woven : Bytes} : Weaves bytes woven → Weaves (b :: bytes) (b :: woven)
  | sequence {s bytes woven : Bytes} : IsSequence s → Weaves bytes woven → Weaves bytes (s ++ woven)

variable {s bytes rest woven : Bytes}

private theorem isParameter_of_isIntermediate {b : UInt8} (h : isIntermediate b = true) :
    isParameter b = false := by
  simp only [isIntermediate, isParameter, Bool.and_eq_true, Bool.and_eq_false_iff,
    decide_eq_true_eq, decide_eq_false_iff_not, UInt8.le_iff_toNat_le, UInt8.reduceToNat] at h ⊢
  omega

private theorem not_isParameter_of_isFinal {b : UInt8} (h : isFinal b = true) :
    isParameter b = false ∧ isIntermediate b = false := by
  simp only [isFinal, isParameter, isIntermediate, Bool.and_eq_true, Bool.and_eq_false_iff,
    decide_eq_true_eq, decide_eq_false_iff_not, UInt8.le_iff_toNat_le, UInt8.reduceToNat] at h ⊢
  omega

private theorem takeWhile_append_cons {p : UInt8 → Bool} (h : ∀ b ∈ s, p b = true) {b : UInt8}
    (hb : p b = false) (rest : Bytes) : (s ++ b :: rest).takeWhile p = s := by
  rw [List.takeWhile_append_of_pos h, List.takeWhile_cons_of_neg (by simp [hb]), List.append_nil]

private theorem bodyLength_append {parameters intermediates : Bytes} {last : UInt8}
    (hparameters : ∀ b ∈ parameters, isParameter b = true)
    (hintermediates : ∀ b ∈ intermediates, isIntermediate b = true) (hlast : isFinal last = true)
    (rest : Bytes) :
    bodyLength (parameters ++ (intermediates ++ last :: rest)) =
      parameters.length + intermediates.length + 1 := by
  have hfirst : (parameters ++ (intermediates ++ last :: rest)).takeWhile isParameter =
      parameters := by
    cases intermediates with
    | nil => exact takeWhile_append_cons hparameters (not_isParameter_of_isFinal hlast).1 rest
    | cons b more =>
      have hb : isIntermediate b = true := hintermediates b List.mem_cons_self
      exact takeWhile_append_cons hparameters (isParameter_of_isIntermediate hb) _
  have hsecond : (intermediates ++ last :: rest).takeWhile isIntermediate = intermediates :=
    takeWhile_append_cons hintermediates (not_isParameter_of_isFinal hlast).2 rest
  simp only [bodyLength, hfirst, List.drop_left, hsecond, hlast, if_true]

private theorem lengthAt_append (h : IsSequence s) (rest : Bytes) :
    lengthAt (s ++ rest) = s.length := by
  obtain ⟨parameters, intermediates, last, rfl, hparameters, hintermediates, hlast⟩ := h
  have hbody := bodyLength_append hparameters hintermediates hlast rest
  simp only [List.cons_append, List.append_assoc, List.nil_append, lengthAt, hbody]
  simp
  omega

private theorem exists_takeWhile (p : UInt8 → Bool) (bytes : Bytes) :
    ∃ rest, bytes = bytes.takeWhile p ++ rest ∧
      bytes.drop (bytes.takeWhile p).length = rest ∧ ∀ b ∈ bytes.takeWhile p, p b = true := by
  obtain ⟨rest, hrest⟩ := List.takeWhile_prefix (l := bytes) p
  have hall : ∀ b ∈ bytes.takeWhile p, p b = true := List.all_eq_true.mp List.all_takeWhile
  generalize bytes.takeWhile p = front at hrest hall ⊢
  subst hrest
  exact ⟨rest, rfl, List.drop_left, hall⟩

private theorem exists_of_bodyLength {n : Nat} (h : bodyLength bytes = n + 1) :
    ∃ parameters intermediates last rest,
      bytes = parameters ++ (intermediates ++ last :: rest) ∧
        n = parameters.length + intermediates.length ∧
        (∀ b ∈ parameters, isParameter b = true) ∧
        (∀ b ∈ intermediates, isIntermediate b = true) ∧ isFinal last = true := by
  obtain ⟨after, hbytes, hafter, hparameters⟩ := exists_takeWhile isParameter bytes
  obtain ⟨beyond, hsplit, hbeyond, hintermediates⟩ := exists_takeWhile isIntermediate after
  simp only [bodyLength, hafter, hbeyond] at h
  cases beyond with
  | nil => cases h
  | cons last rest =>
    dsimp only at h
    split at h
    · next hlast =>
      exact ⟨_, _, last, rest, hbytes.trans (congrArg _ hsplit), (Nat.succ.inj h).symm, hparameters,
        hintermediates, hlast⟩
    · cases h

private theorem exists_of_lengthAt {n : Nat} (h : lengthAt bytes = n + 1) :
    ∃ s rest, bytes = s ++ rest ∧ IsSequence s ∧ s.length = n + 1 := by
  unfold lengthAt at h
  split at h
  · next a b body =>
    split at h
    · next hab =>
      obtain ⟨ha, hb⟩ := Bool.and_eq_true_iff.mp hab
      split at h
      · cases h
      · next m hbody =>
        obtain ⟨parameters, intermediates, last, rest, rfl, hm, hparameters, hintermediates,
          hlast⟩ := exists_of_bodyLength hbody
        refine ⟨a :: b :: (parameters ++ (intermediates ++ [last])), rest, by simp,
          ⟨parameters, intermediates, last, ?_, hparameters, hintermediates, hlast⟩, ?_⟩
        · rw [of_decide_eq_true ha, of_decide_eq_true hb]
        · simp only [List.length_cons, List.length_append, List.length_nil]
          omega
    · cases h
  · cases h

private theorem lengthAt_cons_of_ne {b : UInt8} (hb : b ≠ Bytes.escape) (rest : Bytes) :
    lengthAt (b :: rest) = 0 := by
  cases rest with
  | nil => rfl
  | cons c rest => simp [lengthAt, hb]

private theorem IsSequence.length_pos (h : IsSequence s) : 0 < s.length := by
  obtain ⟨parameters, intermediates, last, rfl, -⟩ := h
  exact Nat.succ_pos _

private theorem IsSequence.escape_mem (h : IsSequence s) : Bytes.escape ∈ s := by
  obtain ⟨parameters, intermediates, last, rfl, -⟩ := h
  exact List.mem_cons_self

/-! ### What is left without sequences -/

private theorem stripFrom_eq (kept : Bytes) (skip : Nat) (bytes : Bytes) :
    stripFrom kept skip bytes = kept.reverse ++ strip (bytes.drop skip) := by
  induction bytes generalizing kept skip with
  | nil => simp [stripFrom, strip]
  | cons b bytes ih =>
    cases skip with
    | succ skip => rw [stripFrom, ih, List.drop_succ_cons]
    | zero =>
      rw [List.drop_zero, strip, stripFrom, stripFrom]
      split
      · rw [ih, ih [b]]
        simp
      · rw [ih, ih []]
        simp

@[simp] theorem strip_nil : strip [] = [] := rfl

private theorem strip_cons (b : UInt8) (rest : Bytes) :
    strip (b :: rest) =
      match lengthAt (b :: rest) with
      | 0 => b :: strip rest
      | n + 1 => strip (rest.drop n) := by
  rw [strip, stripFrom]
  cases lengthAt (b :: rest) with
  | zero => exact stripFrom_eq [b] 0 rest
  | succ n => exact stripFrom_eq [] n rest

private theorem strip_cons_of_lengthAt {b : UInt8} {rest : Bytes} (h : lengthAt (b :: rest) = 0) :
    strip (b :: rest) = b :: strip rest := by
  rw [strip_cons, h]

private theorem strip_append (h : IsSequence s) (rest : Bytes) :
    strip (s ++ rest) = strip rest := by
  have hlength := lengthAt_append h rest
  cases s with
  | nil => exact absurd h.length_pos (Nat.lt_irrefl 0)
  | cons b more =>
    rw [List.cons_append] at hlength ⊢
    rw [strip_cons, hlength, List.length_cons]
    dsimp only
    rw [List.drop_left]

private theorem lengthAt_cases (bytes : Bytes) :
    lengthAt bytes = 0 ∨ ∃ s rest, bytes = s ++ rest ∧ IsSequence s := by
  cases h : lengthAt bytes with
  | zero => exact .inl rfl
  | succ n =>
    obtain ⟨s, rest, hbytes, hs, -⟩ := exists_of_lengthAt h
    exact .inr ⟨s, rest, hbytes, hs⟩

private theorem weaves_strip (bytes : Bytes) : Weaves (strip bytes) bytes := by
  induction hlength : bytes.length using Nat.strongRecOn generalizing bytes with
  | ind n ih =>
    subst hlength
    cases bytes with
    | nil => exact .nil
    | cons b rest =>
      rcases lengthAt_cases (b :: rest) with h | ⟨s, after, hbytes, hs⟩
      · rw [strip_cons_of_lengthAt h]
        exact .byte b (ih rest.length (Nat.lt_succ_self _) rest rfl)
      · have hshorter : after.length < (b :: rest).length := by
          have hpos := hs.length_pos
          rw [hbytes, List.length_append]
          omega
        rw [hbytes, strip_append hs]
        exact .sequence hs (ih after.length hshorter after rfl)

theorem Weaves.strip_eq (h : Weaves bytes woven) (hclean : Bytes.escape ∉ bytes) :
    strip woven = bytes := by
  induction h with
  | nil => rfl
  | byte b _ ih =>
    obtain ⟨hb, hrest⟩ := not_or.mp (mt List.mem_cons.mpr hclean)
    rw [strip_cons_of_lengthAt (lengthAt_cons_of_ne (Ne.symm hb) _), ih hrest]
  | sequence hs _ ih => rw [strip_append hs, ih hclean]

/-- Bytes other than escapes are what is left of those that have sequences put between them. -/
theorem strip_eq_iff_weaves (hclean : Bytes.escape ∉ bytes) :
    strip woven = bytes ↔ Weaves bytes woven := by
  constructor
  · rintro rfl
    exact weaves_strip woven
  · intro h
    exact h.strip_eq hclean

private theorem Weaves.length_le (h : Weaves bytes woven) : bytes.length ≤ woven.length := by
  induction h with
  | nil => exact Nat.le_refl 0
  | byte b _ ih => exact Nat.succ_le_succ ih
  | sequence _ _ ih =>
    rw [List.length_append]
    omega

theorem strip_eq_self_iff : strip bytes = bytes ↔ ∀ s, IsSequence s → ¬s <:+: bytes := by
  induction bytes with
  | nil =>
    simp only [strip_nil, true_iff, List.infix_nil]
    rintro s hs rfl
    exact absurd hs.length_pos (Nat.lt_irrefl 0)
  | cons b rest ih =>
    rcases lengthAt_cases (b :: rest) with h | ⟨s, after, hbytes, hs⟩
    · rw [strip_cons_of_lengthAt h, List.cons.injEq, eq_self, true_and, ih]
      refine forall₂_congr fun s hs => not_congr ⟨List.infix_cons, fun hinside => ?_⟩
      rcases List.infix_cons_iff.mp hinside with ⟨after, hafter⟩ | hinside
      · have hlength := lengthAt_append hs after
        rw [hafter, h] at hlength
        exact absurd hs.length_pos (by omega)
      · exact hinside
    · have hpos := hs.length_pos
      refine iff_of_false (fun heq => ?_) (fun hnone => ?_)
      · have hle := (weaves_strip after).length_le
        rw [hbytes, strip_append hs] at heq
        have hlength := congrArg List.length heq
        rw [List.length_append] at hlength
        omega
      · refine hnone s hs ?_
        rw [hbytes]
        exact List.infix_append_of_infix_left (List.infix_refl s)

theorem strip_of_not_mem (hclean : Bytes.escape ∉ bytes) : strip bytes = bytes :=
  strip_eq_self_iff.mpr fun _ hs hinside => hclean (hinside.subset hs.escape_mem)

end PxeLaunch.ControlSequence

import PxeLaunch.Proofs.Text.Utf8

/-!
The inside of a character. The bytes of a character after its first one continue it, and the first
ones of them alone are no character.
-/

set_option autoImplicit false

namespace PxeLaunch.Utf8

theorem isContinuation_of_isSecond {lead b : UInt8} (h : isSecond lead b = true) :
    isContinuation b = true := by
  unfold isSecond at h
  simp only [isContinuation, Bool.and_eq_true, decide_eq_true_eq, UInt8.le_iff_toNat_le,
    UInt8.reduceToNat] at h ⊢
  split_ifs at h <;> simp_all <;> omega

theorem first?_of_isContinuation {b : UInt8} (h : isContinuation b = true) (rest : Bytes) :
    first? (b :: rest) = none := by
  simp only [isContinuation, Bool.and_eq_true, decide_eq_true_eq, UInt8.le_iff_toNat_le,
    UInt8.reduceToNat] at h
  have hhigh : ¬b < 0x80 := by
    simp only [UInt8.lt_iff_toNat_lt, UInt8.reduceToNat]
    omega
  have hlow : b < 0xC2 := by
    simp only [UInt8.lt_iff_toNat_lt, UInt8.reduceToNat]
    omega
  have hunit : unitAt b rest = .faulty 1 := by
    unfold unitAt
    rw [if_neg hhigh, if_pos hlow]
  rw [first?, hunit]

/-- A character at the front of bytes has one that begins it, and then such as continue it. What
comes after these has no part in it. -/
private theorem exists_of_unitAt {lead : UInt8} {rest : Bytes} {c : Char} {n : Nat}
    (h : unitAt lead rest = .char c n) :
    ∃ tail more, rest = tail ++ more ∧ n = tail.length + 1 ∧
      (lead < 0x80 ∧ tail = [] ∨ 0xC2 ≤ lead ∧ tail ≠ []) ∧
      (∀ b ∈ tail, isContinuation b = true) ∧ ∀ other, unitAt lead (tail ++ other) = .char c n := by
  unfold unitAt at h ⊢
  by_cases hone : lead < 0x80
  · rw [if_pos hone] at h
    exact ⟨[], rest, rfl, (Unit.char.inj h).2.symm, .inl ⟨hone, rfl⟩, by simp,
      fun _ => by rw [if_pos hone, h]⟩
  simp only [if_neg hone] at h ⊢
  by_cases hnone : lead < 0xC2
  · rw [if_pos hnone] at h
    cases h
  simp only [if_neg hnone] at h ⊢
  have hhigh : 0xC2 ≤ lead := UInt8.not_lt.mp hnone
  by_cases htwo : lead < 0xE0
  · simp only [if_pos htwo] at h ⊢
    match rest with
    | [] => cases h
    | b :: more =>
      dsimp only at h
      by_cases hb : isContinuation b = true
      case neg => rw [if_neg hb] at h; cases h
      rw [if_pos hb] at h
      exact ⟨[b], more, rfl, (Unit.char.inj h).2.symm, .inr ⟨hhigh, by simp⟩, by simpa using hb,
        fun _ => (if_pos hb).trans h⟩
  simp only [if_neg htwo] at h ⊢
  by_cases hthree : lead < 0xF0
  · simp only [if_pos hthree] at h ⊢
    match rest with
    | [] => cases h
    | [_] =>
      dsimp only at h
      split at h <;> cases h
    | b :: b' :: more =>
      dsimp only at h
      by_cases hb : isSecond lead b = true
      case neg => rw [if_neg hb] at h; cases h
      rw [if_pos hb] at h
      by_cases hb' : isContinuation b' = true
      case neg => rw [if_neg hb'] at h; cases h
      rw [if_pos hb'] at h
      exact ⟨[b, b'], more, rfl, (Unit.char.inj h).2.symm, .inr ⟨hhigh, by simp⟩,
        by simpa using ⟨isContinuation_of_isSecond hb, hb'⟩,
        fun _ => (if_pos hb).trans ((if_pos hb').trans h)⟩
  simp only [if_neg hthree] at h ⊢
  by_cases hfour : lead < 0xF5
  case neg => rw [if_neg hfour] at h; cases h
  simp only [if_pos hfour] at h ⊢
  match rest with
  | [] => cases h
  | [_] =>
    dsimp only at h
    split at h <;> cases h
  | [_, _] =>
    dsimp only at h
    split at h
    · split at h <;> cases h
    · cases h
  | b :: b' :: b'' :: more =>
    dsimp only at h
    by_cases hb : isSecond lead b = true
    case neg => rw [if_neg hb] at h; cases h
    rw [if_pos hb] at h
    by_cases hb' : isContinuation b' = true
    case neg => rw [if_neg hb'] at h; cases h
    rw [if_pos hb'] at h
    by_cases hb'' : isContinuation b'' = true
    case neg => rw [if_neg hb''] at h; cases h
    rw [if_pos hb''] at h
    exact ⟨[b, b', b''], more, rfl, (Unit.char.inj h).2.symm, .inr ⟨hhigh, by simp⟩,
      by simpa using ⟨isContinuation_of_isSecond hb, hb', hb''⟩,
      fun _ => (if_pos hb).trans ((if_pos hb').trans ((if_pos hb'').trans h))⟩

theorem bounds_of_first? {bytes : Bytes} {c : Char} {n : Nat} (h : first? bytes = some (c, n)) :
    0 < n ∧ n ≤ bytes.length := by
  cases bytes with
  | nil => simp [first?] at h
  | cons lead rest =>
    rw [first?] at h
    split at h
    · next hunit =>
      obtain ⟨rfl, rfl⟩ := Prod.mk.inj (Option.some.inj h)
      obtain ⟨tail, more, rfl, rfl, -⟩ := exists_of_unitAt hunit
      simp
    · simp at h

/-- Bytes that make up a character: one that begins it, and then such as continue it. The first ones
of them are no character. -/
structure IsCharacter (lead : UInt8) (tail : Bytes) : Prop where
  begins : isContinuation lead = false
  alone_or_high : lead < 0x80 ∧ tail = [] ∨ 0xC2 ≤ lead ∧ tail ≠ []
  continues : ∀ b ∈ tail, isContinuation b = true
  length_le : tail.length ≤ 3
  unfinished : ∀ done b more, tail = done ++ b :: more → first? (lead :: done) = none

private theorem exists_encode (c : Char) :
    ∃ lead tail, String.utf8EncodeChar c = lead :: tail ∧ IsCharacter lead tail := by
  obtain ⟨lead, tail, hencode, hunit⟩ := unitAt_encode c []
  rw [List.append_nil] at hunit
  obtain ⟨front, more, rfl, hsize, hcases, hall, -⟩ := exists_of_unitAt hunit
  obtain rfl : more = [] := by
    rw [List.length_append] at hsize
    exact List.eq_nil_of_length_eq_zero (by omega)
  rw [List.append_nil] at hencode hunit
  refine ⟨lead, front, hencode, ?_, hcases, hall, ?_, ?_⟩
  · simp only [isContinuation, Bool.and_eq_false_iff, decide_eq_false_iff_not,
      UInt8.le_iff_toNat_le, UInt8.lt_iff_toNat_lt, UInt8.reduceToNat] at hcases ⊢
    omega
  · have hlength := String.length_utf8EncodeChar c
    have hfour := c.utf8Size_le_four
    rw [hencode, List.length_cons] at hlength
    omega
  · rintro done b more rfl
    cases hdone : unitAt lead done with
    | faulty size => simp [first?, hdone]
    | char c' n =>
      obtain ⟨head, rest, rfl, hn, -, -, hother⟩ := exists_of_unitAt hdone
      have hsame := (hother (rest ++ b :: more)).symm.trans
        ((congrArg (unitAt lead) (List.append_assoc head rest (b :: more))).symm.trans hunit)
      have hshort := (Unit.char.inj hsame).2
      rw [List.length_append, List.length_append, List.length_cons] at hshort
      omega

theorem exists_ofChars_cons (c : Char) (cs : List Char) :
    ∃ lead tail, Bytes.ofChars (c :: cs) = lead :: (tail ++ Bytes.ofChars cs) ∧
      IsCharacter lead tail := by
  obtain ⟨lead, tail, hencode, hcharacter⟩ := exists_encode c
  refine ⟨lead, tail, ?_, hcharacter⟩
  rw [Bytes.ofChars, List.flatMap_cons, hencode]
  rfl

theorem ofNat_mem_of_mem_ofChars {b : UInt8} (hb : b < 0x80) {cs : List Char}
    (h : b ∈ Bytes.ofChars cs) : Char.ofNat b.toNat ∈ cs := by
  obtain ⟨c, hc, hmem⟩ := List.mem_flatMap.mp h
  obtain ⟨lead, tail, hencode, hunit⟩ := unitAt_encode c []
  obtain ⟨lead', tail', hencode', hcharacter⟩ := exists_encode c
  obtain ⟨rfl, rfl⟩ := List.cons.inj (hencode'.symm.trans hencode)
  rw [hencode] at hmem
  rcases List.mem_cons.mp hmem with rfl | htail
  · have hone : unitAt b (tail' ++ []) = .char (Char.ofNat b.toNat) 1 := by
      unfold unitAt
      rw [if_pos hb]
    exact (Unit.char.inj (hone.symm.trans hunit)).1 ▸ hc
  · have hhigh : 0x80 ≤ b := by
      simpa using (Bool.and_eq_true_iff.mp (hcharacter.continues b htail)).1
    exact absurd hb (UInt8.not_lt.mpr hhigh)

end PxeLaunch.Utf8

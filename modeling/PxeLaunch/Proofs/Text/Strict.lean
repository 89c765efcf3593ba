import PxeLaunch.Proofs.Text.Inside

/-!
Strict reading. Every character has one UTF-8 form, as overlong forms and surrogates are left out.
Main statement: bytes are read as a text exactly if they are the UTF-8 form of the text.
-/

set_option autoImplicit false

namespace PxeLaunch.Utf8

/-! ### Octets -/

private theorem toNat_of_isContinuation {b : UInt8} (h : isContinuation b = true) :
    0x80 ≤ b.toNat ∧ b.toNat ≤ 0xBF := by
  simpa [isContinuation, UInt8.le_iff_toNat_le] using h

/-- The four first octets that limit the second one leave room for what is no overlong form, no
surrogate and no more than the last code point. -/
private theorem toNat_of_isSecond {lead b : UInt8} (h : isSecond lead b = true) :
    0x80 ≤ b.toNat ∧ b.toNat ≤ 0xBF ∧ (lead.toNat = 0xE0 → 0xA0 ≤ b.toNat) ∧
      (lead.toNat = 0xED → b.toNat ≤ 0x9F) ∧ (lead.toNat = 0xF0 → 0x90 ≤ b.toNat) ∧
      (lead.toNat = 0xF4 → b.toNat ≤ 0x8F) := by
  obtain ⟨hlow, hhigh⟩ := toNat_of_isContinuation (isContinuation_of_isSecond h)
  unfold isSecond at h
  split_ifs at h with h₁ h₂ h₃ h₄
  all_goals
    simp only [← UInt8.toNat_inj, UInt8.reduceToNat, Bool.and_eq_true, decide_eq_true_eq,
      UInt8.le_iff_toNat_le] at *
    omega

private theorem ofNat_eq {n : Nat} {b : UInt8} (h : n = b.toNat) : UInt8.ofNat n = b := by
  rw [h, UInt8.ofNat_toNat]

/-! ### Characters -/

section Characters

variable {lead b b' b'' : UInt8}

private theorem toNat_char {n : Nat} (h : n < 0xD800 ∨ 0xDFFF < n ∧ n < 0x110000) :
    (Char.ofNat n).val.toNat = n := by
  have hvalid : n.isValidChar := h
  rw [Char.ofNat, dif_pos hvalid]
  rfl

private theorem encode_one (hlow : lead.toNat < 0x80) :
    String.utf8EncodeChar (Char.ofNat lead.toNat) = [lead] := by
  have hvalue := toNat_char (n := lead.toNat) (by omega)
  simp only [String.utf8EncodeChar, hvalue]
  rw [if_pos (by omega), UInt8.ofNat_toNat]

private theorem encode_two (hlow : 0xC2 ≤ lead.toNat) (hhigh : lead.toNat < 0xE0)
    (hb : isContinuation b = true) :
    String.utf8EncodeChar (Char.ofNat (lead.toNat % 32 * 64 + payload b)) = [lead, b] := by
  obtain ⟨hb₁, hb₂⟩ := toNat_of_isContinuation hb
  rw [payload]
  generalize hn : lead.toNat % 32 * 64 + b.toNat % 64 = n
  have hvalue := toNat_char (n := n) (by omega)
  simp only [String.utf8EncodeChar, hvalue]
  rw [if_neg (by omega), if_pos (by omega), ofNat_eq (b := lead) (by omega),
    ofNat_eq (b := b) (by omega)]

private theorem encode_three (hlow : 0xE0 ≤ lead.toNat) (hhigh : lead.toNat < 0xF0)
    (hb : isSecond lead b = true) (hb' : isContinuation b' = true) :
    String.utf8EncodeChar
      (Char.ofNat ((lead.toNat % 16 * 64 + payload b) * 64 + payload b')) = [lead, b, b'] := by
  obtain ⟨hb₁, hb₂, he0, hed, -, -⟩ := toNat_of_isSecond hb
  obtain ⟨hb₁', hb₂'⟩ := toNat_of_isContinuation hb'
  rw [payload, payload]
  generalize hn : (lead.toNat % 16 * 64 + b.toNat % 64) * 64 + b'.toNat % 64 = n
  have hvalue := toNat_char (n := n) (by omega)
  simp only [String.utf8EncodeChar, hvalue]
  rw [if_neg (by omega), if_neg (by omega), if_pos (by omega), ofNat_eq (b := lead) (by omega),
    ofNat_eq (b := b) (by omega), ofNat_eq (b := b') (by omega)]

private theorem encode_four (hlow : 0xF0 ≤ lead.toNat) (hhigh : lead.toNat < 0xF5)
    (hb : isSecond lead b = true) (hb' : isContinuation b' = true)
    (hb'' : isContinuation b'' = true) :
    String.utf8EncodeChar (Char.ofNat
      (((lead.toNat % 8 * 64 + payload b) * 64 + payload b') * 64 + payload b'')) =
      [lead, b, b', b''] := by
  obtain ⟨hb₁, hb₂, -, -, hf0, hf4⟩ := toNat_of_isSecond hb
  obtain ⟨hb₁', hb₂'⟩ := toNat_of_isContinuation hb'
  obtain ⟨hb₁'', hb₂''⟩ := toNat_of_isContinuation hb''
  rw [payload, payload, payload]
  generalize hn :
    ((lead.toNat % 8 * 64 + b.toNat % 64) * 64 + b'.toNat % 64) * 64 + b''.toNat % 64 = n
  have hvalue := toNat_char (n := n) (by omega)
  simp only [String.utf8EncodeChar, hvalue]
  rw [if_neg (by omega), if_neg (by omega), if_neg (by omega), ofNat_eq (b := lead) (by omega),
    ofNat_eq (b := b) (by omega), ofNat_eq (b := b') (by omega), ofNat_eq (b := b'') (by omega)]

private theorem encode_of_unitAt {rest : Bytes} {c : Char} {n : Nat}
    (h : unitAt lead rest = .char c n) :
    ∃ more, lead :: rest = String.utf8EncodeChar c ++ more ∧
      n = (String.utf8EncodeChar c).length := by
  have toNat_lt (a b : UInt8) : a < b ↔ a.toNat < b.toNat := UInt8.lt_iff_toNat_lt
  unfold unitAt at h
  simp only [toNat_lt, UInt8.reduceToNat] at h
  split at h
  · next hone =>
    obtain ⟨rfl, rfl⟩ := Unit.char.inj h
    rw [encode_one hone]
    exact ⟨rest, rfl, rfl⟩
  split at h
  · cases h
  split at h
  · next hlow hhigh =>
    split at h
    · split at h
      · next b more hb =>
        obtain ⟨rfl, rfl⟩ := Unit.char.inj h
        rw [encode_two (by omega) hhigh hb]
        exact ⟨more, rfl, rfl⟩
      · cases h
    · cases h
  split at h
  · next hlow hhigh =>
    split at h
    · split at h
      · next b b' more hb =>
        split at h
        · next hb' =>
          obtain ⟨rfl, rfl⟩ := Unit.char.inj h
          rw [encode_three (by omega) hhigh hb hb']
          exact ⟨more, rfl, rfl⟩
        · cases h
      · cases h
    · split at h <;> cases h
    · cases h
  split at h
  · next hlow hhigh =>
    split at h
    · split at h
      · next b b' b'' more hb =>
        split at h
        · next hb' =>
          split at h
          · next hb'' =>
            obtain ⟨rfl, rfl⟩ := Unit.char.inj h
            rw [encode_four (by omega) hhigh hb hb' hb'']
            exact ⟨more, rfl, rfl⟩
          · cases h
        · cases h
      · cases h
    · split at h
      · split at h <;> cases h
      · cases h
    · split at h <;> cases h
    · cases h
  · cases h

end Characters

/-! ### Texts -/

private theorem unitsFrom_eq (found : List Unit) (skip : Nat) (bytes : Bytes) :
    unitsFrom found skip bytes = found.reverse ++ units (bytes.drop skip) := by
  induction bytes generalizing found skip with
  | nil => cases skip <;> simp [units, unitsFrom]
  | cons lead rest ih =>
    cases skip with
    | zero =>
      simp only [units, unitsFrom, List.drop_zero]
      rw [ih, ih [unitAt lead rest]]
      simp
    | succ skip => rw [unitsFrom, ih, List.drop_succ_cons]

private theorem units_cons (lead : UInt8) (rest : Bytes) :
    units (lead :: rest) = unitAt lead rest :: units (rest.drop ((unitAt lead rest).size - 1)) := by
  rw [units, unitsFrom, unitsFrom_eq]
  rfl

private theorem chars?_cons_eq_some {lead : UInt8} {rest : Bytes} {cs : List Char}
    (h : chars? (lead :: rest) = some cs) :
    ∃ c n ds, cs = c :: ds ∧ unitAt lead rest = .char c n ∧
      chars? (rest.drop (n - 1)) = some ds := by
  rw [chars?, units_cons, List.mapM_cons] at h
  cases hunit : unitAt lead rest with
  | faulty size => simp [hunit] at h
  | char c n =>
    obtain ⟨ds, hds, hcs⟩ := Option.bind_eq_some_iff.mp (by simpa [hunit] using h)
    exact ⟨c, n, ds, (Option.some.inj hcs).symm, rfl, hds⟩

private theorem ofChars_of_chars? {bytes : Bytes} {cs : List Char} (h : chars? bytes = some cs) :
    Bytes.ofChars cs = bytes := by
  induction cs generalizing bytes with
  | nil =>
    cases bytes with
    | nil => rfl
    | cons lead rest =>
      obtain ⟨c, n, ds, hcs, -⟩ := chars?_cons_eq_some h
      cases hcs
  | cons c cs ih =>
    cases bytes with
    | nil => cases h
    | cons lead rest =>
      obtain ⟨c', n, ds, hcs, hunit, hds⟩ := chars?_cons_eq_some h
      obtain ⟨rfl, rfl⟩ := List.cons.inj hcs
      obtain ⟨more, hbytes, hn⟩ := encode_of_unitAt hunit
      have hmore : rest.drop (n - 1) = more := by
        have hdrop : (lead :: rest).drop n = more := by rw [hbytes, hn, List.drop_left]
        obtain ⟨k, rfl⟩ : ∃ k, n = k + 1 := by
          have := String.length_utf8EncodeChar c ▸ Char.utf8Size_pos c
          exact ⟨n - 1, by omega⟩
        simpa using hdrop
      rw [hmore] at hds
      rw [hbytes, ← ih hds]
      rfl

/-- Bytes are read as a text exactly if they are its UTF-8 form. -/
theorem decode?_eq_some_iff {bytes : Bytes} {s : String} :
    decode? bytes = some s ↔ bytes = Bytes.ofString s := by
  constructor
  · intro h
    obtain ⟨cs, hcs, rfl⟩ := Option.map_eq_some_iff.mp h
    rw [Bytes.ofString, String.toList_ofList, ofChars_of_chars? hcs]
  · rintro rfl
    exact decode?_ofString s

end PxeLaunch.Utf8

import PxeLaunch.Text.Utf8
import Mathlib.Tactic.SplitIfs

/-!
Text and its UTF-8 form. Main statement: reading the UTF-8 form of a text gives the text.
-/

set_option autoImplicit false

namespace PxeLaunch.Bytes

theorem ofChars_append (cs ds : List Char) : ofChars (cs ++ ds) = ofChars cs ++ ofChars ds :=
  List.flatMap_append

theorem ofString_append (s t : String) : ofString (s ++ t) = ofString s ++ ofString t := by
  rw [ofString, String.toList_append, ofChars_append]
  rfl

end PxeLaunch.Bytes

namespace PxeLaunch.Utf8

/-! ### Octets -/

/-- The octet after the first one of a character that carries the lowest six bits of a number. -/
private def tailOf (n : Nat) : UInt8 := UInt8.ofNat (n % 64 + 0x80)

private theorem toNat_tailOf (n : Nat) : (tailOf n).toNat = n % 64 + 0x80 := by
  have hlt : n % 64 + 0x80 < 256 := by omega
  rw [tailOf, UInt8.toNat_ofNat', Nat.mod_eq_of_lt hlt]

private theorem isContinuation_tailOf (n : Nat) : isContinuation (tailOf n) = true := by
  have hn := toNat_tailOf n
  simp only [isContinuation, Bool.and_eq_true, decide_eq_true_eq, UInt8.le_iff_toNat_le, hn]
  constructor
  · exact Nat.le_add_left _ _
  · have : UInt8.toNat 0xBF = 0xBF := rfl
    omega

private theorem payload_tailOf (n : Nat) : payload (tailOf n) = n % 64 := by
  rw [payload, toNat_tailOf]
  omega

private theorem isSecond_tailOf {lead : UInt8} {n : Nat} (he0 : lead.toNat = 0xE0 → 32 ≤ n % 64)
    (hed : lead.toNat = 0xED → n % 64 < 32) (hf0 : lead.toNat = 0xF0 → 16 ≤ n % 64)
    (hf4 : lead.toNat = 0xF4 → n % 64 < 16) : isSecond lead (tailOf n) = true := by
  have hn := toNat_tailOf n
  have hlt : n % 64 < 64 := Nat.mod_lt _ (by decide)
  unfold isSecond
  split_ifs with h₁ h₂ h₃ h₄
  · subst h₁
    have := he0 rfl
    simp [UInt8.le_iff_toNat_le, hn]
    omega
  · subst h₂
    have := hed rfl
    simp [UInt8.le_iff_toNat_le, hn]
    omega
  · subst h₃
    have := hf0 rfl
    simp [UInt8.le_iff_toNat_le, hn]
    omega
  · subst h₄
    have := hf4 rfl
    simp [UInt8.le_iff_toNat_le, hn]
    omega
  · exact isContinuation_tailOf n

/-! ### Characters -/

section Characters

variable {c : Char} {lead : UInt8} (rest : Bytes)

private theorem unitAt_one (hlow : c.val.toNat ≤ 0x7F) (hlead : lead.toNat = c.val.toNat) :
    unitAt lead rest = .char c 1 := by
  have h₁ : lead < 0x80 := by
    simp only [UInt8.lt_iff_toNat_lt, hlead, UInt8.reduceToNat]
    omega
  have hchar : Char.ofNat lead.toNat = c := by
    rw [hlead]
    exact Char.ofNat_toNat c
  unfold unitAt
  rw [if_pos h₁, hchar]

private theorem unitAt_two (hlow : 0x7F < c.val.toNat) (hhigh : c.val.toNat ≤ 0x7FF)
    (hlead : lead.toNat = c.val.toNat / 64 % 32 + 0xC0) :
    unitAt lead (tailOf c.val.toNat :: rest) = .char c 2 := by
  have h₁ : ¬lead < 0x80 := by
    simp only [UInt8.lt_iff_toNat_lt, hlead, UInt8.reduceToNat]
    omega
  have h₂ : ¬lead < 0xC2 := by
    simp only [UInt8.lt_iff_toNat_lt, hlead, UInt8.reduceToNat]
    omega
  have h₃ : lead < 0xE0 := by
    simp only [UInt8.lt_iff_toNat_lt, hlead, UInt8.reduceToNat]
    omega
  have hvalue : lead.toNat % 32 * 64 + c.val.toNat % 64 = c.val.toNat := by omega
  have hchar : Char.ofNat c.val.toNat = c := Char.ofNat_toNat c
  unfold unitAt
  simp only [if_neg h₁, if_neg h₂, if_pos h₃, isContinuation_tailOf, payload_tailOf, hvalue,
    hchar, if_true]

private theorem unitAt_three (hlow : 0x7FF < c.val.toNat) (hhigh : c.val.toNat ≤ 0xFFFF)
    (hlead : lead.toNat = c.val.toNat / 4096 % 16 + 0xE0) :
    unitAt lead (tailOf (c.val.toNat / 64) :: tailOf c.val.toNat :: rest) = .char c 3 := by
  have h₁ : ¬lead < 0x80 := by
    simp only [UInt8.lt_iff_toNat_lt, hlead, UInt8.reduceToNat]
    omega
  have h₂ : ¬lead < 0xC2 := by
    simp only [UInt8.lt_iff_toNat_lt, hlead, UInt8.reduceToNat]
    omega
  have h₃ : ¬lead < 0xE0 := by
    simp only [UInt8.lt_iff_toNat_lt, hlead, UInt8.reduceToNat]
    omega
  have h₄ : lead < 0xF0 := by
    simp only [UInt8.lt_iff_toNat_lt, hlead, UInt8.reduceToNat]
    omega
  -- The octets of a surrogate are left out after ED; a character is no surrogate.
  have hvalid : c.val.toNat < 0xD800 ∨ 0xDFFF < c.val.toNat ∧ c.val.toNat < 0x110000 := c.valid
  have hsecond : isSecond lead (tailOf (c.val.toNat / 64)) = true :=
    isSecond_tailOf (by omega) (by omega) (by omega) (by omega)
  have hvalue : (lead.toNat % 16 * 64 + c.val.toNat / 64 % 64) * 64 + c.val.toNat % 64 =
      c.val.toNat := by omega
  have hchar : Char.ofNat c.val.toNat = c := Char.ofNat_toNat c
  unfold unitAt
  simp only [if_neg h₁, if_neg h₂, if_neg h₃, if_pos h₄, hsecond, isContinuation_tailOf,
    payload_tailOf, hvalue, hchar, if_true]

private theorem unitAt_four (hlow : 0xFFFF < c.val.toNat)
    (hlead : lead.toNat = c.val.toNat / 262144 % 8 + 0xF0) :
    unitAt lead (tailOf (c.val.toNat / 4096) :: tailOf (c.val.toNat / 64) :: tailOf c.val.toNat ::
      rest) = .char c 4 := by
  have hvalid : c.val.toNat < 0xD800 ∨ 0xDFFF < c.val.toNat ∧ c.val.toNat < 0x110000 := c.valid
  have h₁ : ¬lead < 0x80 := by
    simp only [UInt8.lt_iff_toNat_lt, hlead, UInt8.reduceToNat]
    omega
  have h₂ : ¬lead < 0xC2 := by
    simp only [UInt8.lt_iff_toNat_lt, hlead, UInt8.reduceToNat]
    omega
  have h₃ : ¬lead < 0xE0 := by
    simp only [UInt8.lt_iff_toNat_lt, hlead, UInt8.reduceToNat]
    omega
  have h₄ : ¬lead < 0xF0 := by
    simp only [UInt8.lt_iff_toNat_lt, hlead, UInt8.reduceToNat]
    omega
  have h₅ : lead < 0xF5 := by
    simp only [UInt8.lt_iff_toNat_lt, hlead, UInt8.reduceToNat]
    omega
  have hsecond : isSecond lead (tailOf (c.val.toNat / 4096)) = true :=
    isSecond_tailOf (by omega) (by omega) (by omega) (by omega)
  have hvalue :
      ((lead.toNat % 8 * 64 + c.val.toNat / 4096 % 64) * 64 + c.val.toNat / 64 % 64) * 64 +
        c.val.toNat % 64 = c.val.toNat := by omega
  have hchar : Char.ofNat c.val.toNat = c := Char.ofNat_toNat c
  unfold unitAt
  simp only [if_neg h₁, if_neg h₂, if_neg h₃, if_neg h₄, if_pos h₅, hsecond,
    isContinuation_tailOf, payload_tailOf, hvalue, hchar, if_true]

end Characters

/-- The UTF-8 form of a character is one unit, whatever comes after it. -/
theorem unitAt_encode (c : Char) (rest : Bytes) :
    ∃ lead tail, String.utf8EncodeChar c = lead :: tail ∧
      unitAt lead (tail ++ rest) = .char c (tail.length + 1) := by
  have toNat_ofNat {n : Nat} (h : n < 256) : (UInt8.ofNat n).toNat = n := by
    rw [UInt8.toNat_ofNat', Nat.mod_eq_of_lt h]
  simp only [String.utf8EncodeChar]
  split_ifs with h₁ h₂ h₃
  · exact ⟨_, _, rfl, unitAt_one rest h₁ (toNat_ofNat (by omega))⟩
  · exact ⟨_, _, rfl, unitAt_two rest (by omega) h₂ (toNat_ofNat (by omega))⟩
  · exact ⟨_, _, rfl, unitAt_three rest (by omega) h₃ (toNat_ofNat (by omega))⟩
  · exact ⟨_, _, rfl, unitAt_four rest (by omega) (toNat_ofNat (by omega))⟩

/-! ### Texts -/

private theorem unitsFrom_skip (found : List Unit) (first rest : Bytes) :
    unitsFrom found first.length (first ++ rest) = unitsFrom found 0 rest := by
  induction first with
  | nil => rfl
  | cons b first ih =>
    rw [List.length_cons, List.cons_append, unitsFrom]
    exact ih

private theorem unitsFrom_ofChars (found : List Unit) (cs : List Char) :
    unitsFrom found 0 (Bytes.ofChars cs) = found.reverse ++ cs.map fun c => .char c c.utf8Size := by
  induction cs generalizing found with
  | nil => simp [Bytes.ofChars, unitsFrom]
  | cons c cs ih =>
    obtain ⟨lead, tail, hencode, hunit⟩ := unitAt_encode c (Bytes.ofChars cs)
    have hsize : c.utf8Size = tail.length + 1 := by
      rw [← String.length_utf8EncodeChar c, hencode, List.length_cons]
    have hchars : Bytes.ofChars (c :: cs) = lead :: (tail ++ Bytes.ofChars cs) := by
      rw [Bytes.ofChars, List.flatMap_cons, hencode]
      rfl
    rw [hchars, unitsFrom, hunit]
    dsimp only [Unit.size]
    rw [Nat.add_sub_cancel, unitsFrom_skip, ih]
    simp [hsize]

private theorem units_ofChars (cs : List Char) :
    units (Bytes.ofChars cs) = cs.map fun c => .char c c.utf8Size :=
  unitsFrom_ofChars [] cs

private theorem chars?_ofChars (cs : List Char) : chars? (Bytes.ofChars cs) = some cs := by
  rw [chars?, units_ofChars]
  induction cs with
  | nil => rfl
  | cons c cs ih => simp [ih]

theorem decode?_ofString (s : String) : decode? (Bytes.ofString s) = some s := by
  rw [decode?, Bytes.ofString, chars?_ofChars]
  exact congrArg some String.ofList_toList

end PxeLaunch.Utf8

namespace PxeLaunch.Bytes

theorem ofString_injective {s t : String} (h : ofString s = ofString t) : s = t := by
  have hdecode := congrArg Utf8.decode? h
  rwa [Utf8.decode?_ofString, Utf8.decode?_ofString, Option.some.injEq] at hdecode

end PxeLaunch.Bytes

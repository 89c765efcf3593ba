import Mathlib.Data.List.Infix
import PxeLaunch.Proofs.Toml.Text

/-!
Text between quotes that has not been escaped. Main statement: it is read back as it is exactly if
each of its characters stands for itself in a basic string, when the line ends after the quotes and
no three quotes follow.
-/

set_option autoImplicit false

namespace PxeLaunch.Toml.Text

variable {cs rest found s after text : List Char}

/-! ### Escapes -/

private theorem hexDigit?_ne_none_of_hexValue? {digits : List Char} {n : Nat}
    (h : hexValue? digits = some n) {c : Char} (hc : c ∈ digits) : hexDigit? c ≠ none := by
  have hnone (digits : List Char) :
      digits.foldl (fun n c => n.bind fun n => (hexDigit? c).map (n * 16 + ·)) none = none := by
    induction digits with
    | nil => rfl
    | cons d digits ih => exact ih
  have hall (digits : List Char) (start : Option Nat) (hc : c ∈ digits)
      (h : digits.foldl (fun n c => n.bind fun n => (hexDigit? c).map (n * 16 + ·)) start ≠ none) :
      hexDigit? c ≠ none := by
    induction digits generalizing start with
    | nil => simp at hc
    | cons d digits ih =>
      rcases List.mem_cons.mp hc with rfl | hc
      · intro hnot
        refine h ?_
        rw [List.foldl_cons, hnot]
        cases start <;> exact hnone digits
      · exact ih _ hc h
  exact hall digits (some 0) hc (by rw [← hexValue?, h]; simp)

private theorem not_mem_take_of_codePoint? {count n : Nat} {c : Char}
    (h : codePoint? count cs = some (c, n)) : n = count + 1 ∧ '\n' ∉ cs.take count := by
  rw [codePoint?] at h
  split at h
  · obtain ⟨_, hchar, heq⟩ := Option.map_eq_some_iff.mp h
    obtain ⟨value, hvalue, -⟩ := Option.bind_eq_some_iff.mp hchar
    obtain ⟨-, rfl⟩ := Prod.mk.inj heq
    refine ⟨rfl, fun hmem => ?_⟩
    exact hexDigit?_ne_none_of_hexValue? hvalue hmem (by decide)
  · cases h

private theorem not_mem_take_of_escape? {c : Char} {n : Nat} (h : escape? cs = some (c, n)) :
    n ≠ 0 ∧ '\n' ∉ cs.take n := by
  have hcode {count : Nat} {d : Char} {rest : List Char} (hd : '\n' ≠ d)
      (h : codePoint? count rest = some (c, n)) : n ≠ 0 ∧ '\n' ∉ (d :: rest).take n := by
    obtain ⟨rfl, hmem⟩ := not_mem_take_of_codePoint? h
    exact ⟨Nat.succ_ne_zero count, by simp [hd, hmem]⟩
  unfold escape? at h
  split at h
  case h_8 => exact hcode (by decide) h
  case h_9 => exact hcode (by decide) h
  case h_10 => cases h
  all_goals
    obtain ⟨-, rfl⟩ := Prod.mk.inj (Option.some.inj h)
    simp

/-! ### Basic strings -/

private theorem ne_of_isBasic {c d : Char} (hc : isBasic c = true) (hd : isBasic d = false) :
    c ≠ d := by
  rintro rfl
  rw [hc] at hd
  cases hd

private theorem basicFrom_append (found : List Char) (h : ∀ c ∈ cs, isBasic c = true)
    (rest : List Char) :
    basicFrom found 0 (cs ++ '"' :: rest) = some (found.reverse ++ cs, rest) := by
  induction cs generalizing found with
  | nil => simp [basicFrom]
  | cons c cs ih =>
    obtain ⟨hc, hcs⟩ := List.forall_mem_cons.mp h
    simp [basicFrom, hc, ne_of_isBasic hc (d := '"') (by decide),
      ne_of_isBasic hc (d := '\\') (by decide), ih _ hcs]

private theorem exists_of_basicFrom {skip : Nat} (h : basicFrom found skip text = some (s, after))
    (hskip : '\n' ∉ text.take skip) :
    ∃ used t, text = used ++ '"' :: after ∧ s = found.reverse ++ t ∧ '\n' ∉ used ∧
      (skip = 0 ∧ t = used ∧ (∀ c ∈ used, isBasic c = true) ∨ t.length < used.length) := by
  induction text generalizing found skip with
  | nil => cases skip <;> cases h
  | cons c rest ih =>
    obtain _ | skip := skip
    · rw [basicFrom] at h
      split at h
      · next hquote =>
        obtain ⟨rfl, rfl⟩ := Prod.mk.inj (Option.some.inj h)
        exact ⟨[], [], by rw [hquote]; rfl, by simp, by simp, .inl ⟨rfl, rfl, by simp⟩⟩
      split at h
      · next hslash =>
        split at h
        · next e n hescape =>
          obtain ⟨hn, hline⟩ := not_mem_take_of_escape? hescape
          obtain ⟨used, t, rfl, rfl, hused, hcases⟩ := ih h hline
          have hshort : t.length < used.length := hcases.resolve_left fun hnot => hn hnot.1
          exact ⟨c :: used, e :: t, rfl, by simp, by simp [hslash, hused],
            .inr (Nat.succ_lt_succ hshort)⟩
        · cases h
      split at h
      · next hbasic =>
        obtain ⟨used, t, rfl, rfl, hused, hcases⟩ := ih h (by simp)
        have hc : '\n' ≠ c := (ne_of_isBasic hbasic (by decide)).symm
        refine ⟨c :: used, c :: t, rfl, by simp, by simp [hc, hused], ?_⟩
        rcases hcases with ⟨-, rfl, hall⟩ | hshort
        · exact .inl ⟨rfl, rfl, List.forall_mem_cons.mpr ⟨hbasic, hall⟩⟩
        · exact .inr (Nat.succ_lt_succ hshort)
      · cases h
    · rw [List.take_succ_cons, List.mem_cons, not_or] at hskip
      obtain ⟨used, t, rfl, rfl, hused, hcases⟩ := ih h hskip.2
      refine ⟨c :: used, t, rfl, rfl, by simp [hskip.1, hused], .inr ?_⟩
      rcases hcases with ⟨-, rfl, -⟩ | hshort
      · exact Nat.lt_succ_self _
      · exact Nat.lt_succ_of_lt hshort

/-! ### Basic strings of several lines -/

/-- The last three quotes of a run are the delimiter, and those before it belong to the string. -/
private theorem exists_of_closing (quote : Char) (found rest : List Char) :
    ∃ quotes, quote :: quote :: quote :: rest =
        quotes ++ quote :: quote :: quote :: (closing quote found rest).2 ∧
      (closing quote found rest).1.length = found.length + quotes.length := by
  match rest with
  | [] => exact ⟨[], rfl, by simp [closing]⟩
  | [a] =>
    by_cases ha : a = quote
    · exact ⟨[quote], by simp [closing, ha], by simp [closing, ha]⟩
    · exact ⟨[], by simp [closing, ha], by simp [closing, ha]⟩
  | a :: b :: rest =>
    by_cases ha : a = quote
    · by_cases hb : b = quote
      · exact ⟨[quote, quote], by simp [closing, ha, hb], by simp [closing, ha, hb]⟩
      · exact ⟨[quote], by simp [closing, ha, hb], by simp [closing, ha, hb]⟩
    · exact ⟨[], by simp [closing, ha], by simp [closing, ha]⟩

private theorem eq_of_delimiter? {quote : Char} (h : delimiter? quote text = some after) :
    text = quote :: quote :: after := by
  match text with
  | [] => cases h
  | [_] => cases h
  | a :: b :: rest =>
    rw [delimiter?] at h
    split at h
    · next hquotes =>
      obtain ⟨rfl, rfl⟩ : a = quote ∧ b = quote := by simpa using hquotes
      rw [Option.some.inj h]
    · cases h

private theorem exists_of_longBasicFrom {trims : Bool} {skip : Nat}
    (h : longBasicFrom found trims skip text = some (s, after)) :
    ∃ used, text = used ++ '"' :: '"' :: '"' :: after ∧ s.length ≤ found.length + used.length := by
  induction text generalizing found trims skip with
  | nil => cases skip <;> cases h
  | cons c rest ih =>
    have hnext {found' : List Char} {trims : Bool} {skip : Nat}
        (hfound : found'.length ≤ found.length + 1)
        (h : longBasicFrom found' trims skip rest = some (s, after)) :
        ∃ used, c :: rest = used ++ '"' :: '"' :: '"' :: after ∧
          s.length ≤ found.length + used.length := by
      obtain ⟨used, rfl, hlength⟩ := ih h
      exact ⟨c :: used, rfl, by rw [List.length_cons]; omega⟩
    obtain _ | skip := skip
    · rw [longBasicFrom] at h
      split at h
      · exact hnext (Nat.le_succ _) h
      split at h
      · next hquote =>
        split at h
        · next rest' hdelimiter =>
          obtain ⟨quotes, hquotes, hlength⟩ := exists_of_closing '"' found rest'
          rw [eq_of_delimiter? hdelimiter, hquote, hquotes]
          rw [Option.some.inj h] at hlength ⊢
          exact ⟨quotes, rfl, Nat.le_of_eq hlength⟩
        · exact hnext (Nat.le_refl _) h
      split at h
      · split at h
        · exact hnext (Nat.le_succ _) h
        · split at h
          · exact hnext (Nat.le_refl _) h
          · cases h
      split at h
      · exact hnext (Nat.le_refl _) h
      split at h
      · exact hnext (Nat.le_refl _) h
      · cases h
    · exact hnext (Nat.le_succ _) h

private theorem dropNewline_suffix (cs : List Char) : dropNewline cs <:+ cs := List.drop_suffix _ _

/-! ### Text between quotes -/

theorem read?_quote_of_isBasic (h : ∀ c ∈ cs, isBasic c = true) (hrest : rest.head? ≠ some '"') :
    read? ('"' :: (cs ++ '"' :: rest)) = some (cs, rest) := by
  have hdelimiter : delimiter? '"' (cs ++ '"' :: rest) = none := by
    cases cs with
    | nil => exact delimiter?_eq_none_of_head?_tail hrest
    | cons c cs =>
      have hc : c ≠ '"' := ne_of_isBasic (h c List.mem_cons_self) (by decide)
      exact delimiter?_eq_none_of_head? (by simpa using hc)
  rw [read?, hdelimiter]
  exact basicFrom_append [] h rest

private theorem exists_of_length_lt {used : List Char}
    (h : cs ++ '"' :: rest = used ++ '"' :: after) (hlength : cs.length < used.length) :
    ∃ more, used = cs ++ '"' :: more ∧ rest = more ++ '"' :: after := by
  rcases List.append_eq_append_iff.mp h with ⟨extra, rfl, hextra⟩ | ⟨extra, rfl, -⟩
  · cases extra with
    | nil => simp at hlength
    | cons c more =>
      obtain ⟨rfl, rfl⟩ := List.cons.inj hextra
      exact ⟨more, rfl, rfl⟩
  · rw [List.length_append] at hlength
    omega

private theorem isBasic_of_read?_quote (h : read? ('"' :: (cs ++ '"' :: rest)) = some (cs, after))
    (hline : rest.head? = some '\n') (hrest : ¬['"', '"', '"'] <:+: rest) :
    ∀ c ∈ cs, isBasic c = true := by
  rw [read?] at h
  split at h
  · -- A string of several lines ends at three quotes, which do not come before the end.
    next rest' hdelimiter =>
    obtain ⟨used, hused, hlength⟩ := exists_of_longBasicFrom h
    obtain ⟨front, hfront⟩ := dropNewline_suffix rest'
    have hwhole : cs ++ '"' :: rest =
        ('"' :: '"' :: (front ++ used)) ++ '"' :: ('"' :: '"' :: after) := by
      rw [eq_of_delimiter? hdelimiter, ← hfront, hused]
      simp
    obtain ⟨more, -, rfl⟩ := exists_of_length_lt hwhole (by simp at hlength ⊢; omega)
    exact absurd ⟨more, after, by simp⟩ hrest
  · obtain ⟨used, t, hused, hs, hmem, ⟨-, heq, hall⟩ | hshort⟩ := exists_of_basicFrom h (by simp)
    · obtain rfl : cs = used := by simpa [heq] using hs
      exact hall
    · -- With an escape more is used than the text itself, and the line ends right after that.
      obtain rfl : cs = t := by simpa using hs
      obtain ⟨more, rfl, rfl⟩ := exists_of_length_lt hused hshort
      cases more with
      | nil => simp at hline
      | cons c more => simp_all

/-- Text between quotes is read back as it is exactly if all of it stands for itself. -/
theorem exists_read?_quote_iff (hline : rest.head? = some '\n')
    (hrest : ¬['"', '"', '"'] <:+: rest) :
    (∃ after, read? ('"' :: (cs ++ '"' :: rest)) = some (cs, after)) ↔
      ∀ c ∈ cs, isBasic c = true :=
  ⟨fun ⟨_, h⟩ => isBasic_of_read?_quote h hline hrest,
    fun h => ⟨rest, read?_quote_of_isBasic h (by simp [hline])⟩⟩

end PxeLaunch.Toml.Text

import PxeLaunch.Toml.Scalar

/-!
Numbers that are written and read. Decimal digits are neither a truth value nor a date nor a time.
Main statement: reading the decimal digits of a number of 64 bits gives the number.
-/

set_option autoImplicit false

namespace PxeLaunch.Toml.Scalar

/-! ### Dates and times -/

private theorem twoDigits?_eq_some {cs rest : List Char} {n : Nat}
    (h : Datetime.twoDigits? cs = some (n, rest)) : ∃ a b, cs = a :: b :: rest := by
  match cs with
  | [] => simp [Datetime.twoDigits?] at h
  | [_] => simp [Datetime.twoDigits?] at h
  | a :: b :: cs =>
    simp only [Datetime.twoDigits?, Option.ite_none_right_eq_some, Option.some.injEq,
      Prod.mk.injEq] at h
    exact ⟨a, b, by rw [h.2.2]⟩

private theorem mark?_eq_none {mark : Char} {cs : List Char} (h : mark ∉ cs) :
    Datetime.mark? mark cs = none := by
  cases cs with
  | nil => rfl
  | cons c cs =>
    have hc : c ≠ mark := fun heq => h (by simp [heq])
    simp [Datetime.mark?, hc]

private theorem date?_eq_none {cs : List Char} (h : '-' ∉ cs) : Datetime.date? cs = none := by
  cases hcentury : Datetime.twoDigits? cs with
  | none => simp [Datetime.date?, hcentury]
  | some found =>
    obtain ⟨century, afterCentury⟩ := found
    obtain ⟨a, b, rfl⟩ := twoDigits?_eq_some hcentury
    cases hyear : Datetime.twoDigits? afterCentury with
    | none => simp [Datetime.date?, hcentury, hyear]
    | some found =>
      obtain ⟨year, afterYear⟩ := found
      obtain ⟨c, d, rfl⟩ := twoDigits?_eq_some hyear
      have hmark : Datetime.mark? '-' afterYear = none :=
        mark?_eq_none fun hmem => h (by simp [hmem])
      simp [Datetime.date?, hcentury, hyear, hmark]

private theorem time?_eq_none {cs : List Char} (h : ':' ∉ cs) : Datetime.time? cs = none := by
  cases hhour : Datetime.twoDigits? cs with
  | none => simp [Datetime.time?, hhour]
  | some found =>
    obtain ⟨hour, afterHour⟩ := found
    obtain ⟨a, b, rfl⟩ := twoDigits?_eq_some hhour
    have hmark : Datetime.mark? ':' afterHour = none :=
      mark?_eq_none fun hmem => h (by simp [hmem])
    simp [Datetime.time?, hhour, hmark]

private theorem ofChars?_eq_none {cs : List Char} (hdate : '-' ∉ cs) (htime : ':' ∉ cs) :
    Datetime.ofChars? cs = none := by
  simp [Datetime.ofChars?, date?_eq_none hdate, time?_eq_none htime]

/-! ### Digits -/

/-- Characters that are all decimal digits, of which there is at least one. -/
private structure AreDigits (cs : List Char) : Prop where
  isDigit : ∀ c ∈ cs, c.isDigit = true
  nonempty : cs ≠ []

private theorem AreDigits.not_mem {cs : List Char} (h : AreDigits cs) {c : Char}
    (hc : c.isDigit = false) : c ∉ cs := by
  intro hmem
  rw [h.isDigit c hmem] at hc
  exact absurd hc (by decide)

private theorem areDigits_toDigits (n : Nat) : AreDigits (Nat.toDigits 10 n) where
  isDigit _ hc := Nat.isDigit_of_mem_toDigits (by decide) (by decide) hc
  nonempty := Nat.toDigits_ne_nil

private theorem digitsFrom_of_isDigit {cs : List Char} (h : ∀ c ∈ cs, c.isDigit = true) :
    digitsFrom Char.isDigit true cs = some cs := by
  induction cs with
  | nil => rfl
  | cons c cs ih =>
    obtain ⟨hc, hcs⟩ := List.forall_mem_cons.mp h
    have hunderscore : c ≠ '_' := by
      rintro rfl
      simp at hc
    simp [digitsFrom, hc, ih hcs]

private theorem digits?_of_areDigits {cs : List Char} (h : AreDigits cs) :
    digits? Char.isDigit cs = some cs := by
  obtain ⟨hdigits, hne⟩ := h
  cases cs with
  | nil => exact absurd rfl hne
  | cons c cs =>
    obtain ⟨hc, hcs⟩ := List.forall_mem_cons.mp hdigits
    have hunderscore : c ≠ '_' := by
      rintro rfl
      simp at hc
    simp [digits?, digitsFrom, hc, digitsFrom_of_isDigit hcs]

private theorem head?_toDigits {n : Nat} (h : 0 < n) : (Nat.toDigits 10 n).head? ≠ some '0' := by
  induction n using Nat.strongRecOn with
  | _ n ih =>
    rw [Nat.toDigits_eq_if (by decide)]
    split
    · rename_i hlt
      have hdigit : ∀ m < 10, 0 < m → m.digitChar ≠ '0' := by decide
      simpa using hdigit n hlt h
    · rename_i hle
      have hhead := ih (n / 10) (by omega) (by omega)
      cases hdigits : Nat.toDigits 10 (n / 10) with
      | nil => exact absurd hdigits Nat.toDigits_ne_nil
      | cons d ds =>
        rw [hdigits] at hhead
        simpa using hhead

private theorem wholeDigits?_toDigits (n : Nat) :
    wholeDigits? (Nat.toDigits 10 n) = some (Nat.toDigits 10 n) := by
  have hdigits := digits?_of_areDigits (areDigits_toDigits n)
  unfold wholeDigits?
  split
  · rename_i c rest heq
    rcases Nat.eq_zero_or_pos n with rfl | hpos
    · simp at heq
    · exact absurd (by rw [heq]; rfl) (head?_toDigits hpos)
  · exact hdigits

private theorem splitSign_of_areDigits {cs : List Char} (h : AreDigits cs) :
    splitSign cs = (false, cs) := by
  unfold splitSign
  split
  · exact absurd (by simp) (h.not_mem (c := '+') rfl)
  · exact absurd (by simp) (h.not_mem (c := '-') rfl)
  · rfl

private theorem ofDigits_eq_ofDigitChars {cs : List Char} (h : ∀ c ∈ cs, c.isDigit = true) :
    ofDigits 10 cs = Nat.ofDigitChars 10 cs 0 := by
  suffices hfold : ∀ n,
      cs.foldl (fun n c => n * 10 + digitValue c) n = Nat.ofDigitChars 10 cs n from
    hfold 0
  induction cs with
  | nil => intro n; simp
  | cons c cs ih =>
    obtain ⟨hc, hcs⟩ := List.forall_mem_cons.mp h
    intro n
    rw [List.foldl_cons, Nat.ofDigitChars_cons, ih hcs, Nat.mul_comm]
    simp [digitValue, hc]

private theorem inRange?_of_lt {n : Nat} (h : n < 0x8000000000000000) :
    inRange? (n : Int) = some (n : Int) := by
  have hcond : -0x8000000000000000 ≤ (n : Int) ∧ (n : Int) < 0x8000000000000000 := by omega
  rw [inRange?, if_pos]
  simpa using hcond

private theorem integer?_of_areDigits {cs : List Char} (h : AreDigits cs)
    (hwhole : wholeDigits? cs = some cs) : integer? cs = inRange? (ofDigits 10 cs) := by
  unfold integer?
  split
  · exact absurd (by simp) (h.not_mem (c := 'x') rfl)
  · exact absurd (by simp) (h.not_mem (c := 'o') rfl)
  · exact absurd (by simp) (h.not_mem (c := 'b') rfl)
  · -- Stepwise, as the bounds of the range are too great for a term that holds them twice.
    rw [splitSign_of_areDigits h]
    dsimp only
    rw [hwhole, Option.bind_some]
    simp only [Bool.false_eq_true, if_false]

private theorem integer?_toDigits {n : Nat} (h : n < 0x8000000000000000) :
    integer? (Nat.toDigits 10 n) = some (n : Int) := by
  have hdigits := areDigits_toDigits n
  rw [integer?_of_areDigits hdigits (wholeDigits?_toDigits n),
    ofDigits_eq_ofDigitChars hdigits.isDigit, Nat.ofDigitChars_toDigits (by decide) (by decide),
    inRange?_of_lt h]

private theorem isScalarChar_of_isDigit {c : Char} (h : c.isDigit = true) :
    isScalarChar c = true := by
  simp [isScalarChar, Char.isAlphanum, h]

theorem read?_toDigits {n : Nat} (h : n < 0x8000000000000000) (rest : List Char) :
    read? (Nat.toDigits 10 n ++ '\n' :: rest) = some (.integer n, '\n' :: rest) := by
  have hdigits := areDigits_toDigits n
  have hvalue : value? (Nat.toDigits 10 n) = some (.integer n) := by
    have htrue : Nat.toDigits 10 n ≠ ['t', 'r', 'u', 'e'] := fun heq =>
      hdigits.not_mem (c := 't') rfl (by simp [heq])
    have hfalse : Nat.toDigits 10 n ≠ ['f', 'a', 'l', 's', 'e'] := fun heq =>
      hdigits.not_mem (c := 'f') rfl (by simp [heq])
    have hdate := ofChars?_eq_none (hdigits.not_mem (c := '-') rfl) (hdigits.not_mem (c := ':') rfl)
    simp [value?, htrue, hfalse, hdate, integer?_toDigits h]
  have hscalar : ∀ c ∈ Nat.toDigits 10 n, isScalarChar c = true := fun c hc =>
    isScalarChar_of_isDigit (hdigits.isDigit c hc)
  have hnewline : isScalarChar '\n' = false := rfl
  have htake : (Nat.toDigits 10 n ++ '\n' :: rest).takeWhile isScalarChar = Nat.toDigits 10 n := by
    rw [List.takeWhile_append_of_pos hscalar, List.takeWhile_cons_of_neg (by simp [hnewline]),
      List.append_nil]
  have hdrop : (Nat.toDigits 10 n ++ '\n' :: rest).dropWhile isScalarChar = '\n' :: rest := by
    rw [List.dropWhile_append_of_pos hscalar, List.dropWhile_cons_of_neg (by simp [hnewline])]
  simp [read?, htake, hdrop, hvalue]

end PxeLaunch.Toml.Scalar

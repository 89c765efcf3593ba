import PxeLaunch.Regex.Reader

/-!
Reading a notation with a closing parenthesis after it. What is read before the parenthesis is read
alike with and without it, as every reading step takes or looks at the parenthesis only where it
would otherwise come to the end. Main statement: a notation that may stand by itself is one form, a
group, when it is read between the parentheses of a pattern that is tied to the start of the line.
-/

set_option autoImplicit false

namespace PxeLaunch.Regex

namespace Reading

/-! ### Steps that agree -/

/-- Whether the second cursor stands where the first one does, with a closing parenthesis behind
what is left; it may be lost when nothing is left. -/
structure IsEnclosed (s t : Cursor) : Prop where
  rest : t.rest = s.rest ++ [')'] ∨ s.rest = [] ∧ t.rest = []
  skipsBlanks : t.skipsBlanks = s.skipsBlanks
  nextIndex : t.nextIndex = s.nextIndex
  names : t.names = s.names

/-- Whether two steps find related things and leave off at the same place, if both succeed. -/
def Agree {α β : Type} (R : α → β → Prop) (m : Reading α) (m' : Reading β) : Prop :=
  ∀ s t a s' b t', IsEnclosed s t → m.run s = some (a, s') → m'.run t = some (b, t') →
    R a b ∧ IsEnclosed s' t'

section

variable {α β γ δ : Type} {R : α → β → Prop} {S : γ → δ → Prop}

private theorem agree_bind {m : Reading α} {m' : Reading β} {f : α → Reading γ} {f' : β → Reading δ}
    (hm : Agree R m m') (hf : ∀ a b, R a b → Agree S (f a) (f' b)) :
    Agree S (m >>= f) (m' >>= f') := by
  intro s t c s' d t' hst hrun hrun'
  obtain ⟨⟨a, u⟩, ha, hc⟩ := Option.bind_eq_some_iff.mp hrun
  obtain ⟨⟨b, v⟩, hb, hd⟩ := Option.bind_eq_some_iff.mp hrun'
  obtain ⟨hab, huv⟩ := hm s t a u b v hst ha hb
  exact hf a b hab u v c s' d t' huv hc hd

private theorem agree_bind_eq {m m' : Reading α} {f : α → Reading γ} {f' : α → Reading δ}
    (hm : Agree Eq m m') (hf : ∀ a, Agree S (f a) (f' a)) : Agree S (m >>= f) (m' >>= f') :=
  agree_bind hm fun a _ h => h ▸ hf a

private theorem agree_pure {a : α} {b : β} (h : R a b) : Agree R (pure a) (pure b) := by
  intro s t a' s' b' t' hst hrun hrun'
  obtain ⟨rfl, rfl⟩ := Prod.mk.inj (Option.some.inj hrun)
  obtain ⟨rfl, rfl⟩ := Prod.mk.inj (Option.some.inj hrun')
  exact ⟨h, hst⟩

private theorem agree_failure {m' : Reading β} : Agree R failure m' :=
  fun _ _ _ _ _ _ _ hrun => nomatch (hrun : none = some _)

private theorem agree_ite {c : Prop} [Decidable c] {m₁ m₂ : Reading α} {m₁' m₂' : Reading β}
    (h₁ : c → Agree R m₁ m₁') (h₂ : ¬c → Agree R m₂ m₂') :
    Agree R (if c then m₁ else m₂) (if c then m₁' else m₂') := by
  split
  · next h => exact h₁ h
  · next h => exact h₂ h

private theorem agree_when {c : Prop} [Decidable c] {m m' : Reading PUnit} {f : PUnit → Reading α}
    {f' : PUnit → Reading β} (hm : Agree Eq m m') (hf : Agree R (f ⟨⟩) (f' ⟨⟩)) :
    Agree R (if c then m >>= f else f ⟨⟩) (if c then m' >>= f' else f' ⟨⟩) :=
  agree_ite (fun _ => agree_bind hm fun _ _ _ => hf) fun _ => hf

end

private theorem agree_get : Agree IsEnclosed get get := by
  intro s t a s' b t' hst hrun hrun'
  obtain ⟨rfl, rfl⟩ := Prod.mk.inj (Option.some.inj hrun)
  obtain ⟨rfl, rfl⟩ := Prod.mk.inj (Option.some.inj hrun')
  exact ⟨hst, hst⟩

private theorem agree_set {s t : Cursor} (h : IsEnclosed s t) : Agree Eq (set s) (set t) := by
  intro _ _ _ s' _ t' _ hrun hrun'
  obtain ⟨rfl, rfl⟩ := Prod.mk.inj (Option.some.inj hrun)
  obtain ⟨rfl, rfl⟩ := Prod.mk.inj (Option.some.inj hrun')
  exact ⟨rfl, h⟩

private theorem agree_modify {f g : Cursor → Cursor}
    (h : ∀ s t, IsEnclosed s t → IsEnclosed (f s) (g t)) : Agree Eq (modify f) (modify g) := by
  intro s t _ s' _ t' hst hrun hrun'
  obtain ⟨rfl, rfl⟩ := Prod.mk.inj (Option.some.inj hrun)
  obtain ⟨rfl, rfl⟩ := Prod.mk.inj (Option.some.inj hrun')
  exact ⟨rfl, h s t hst⟩

/-! ### Looking ahead and stepping over -/

/-- What comes next, of which one reader may see the parenthesis where the other sees the end. -/
def IsSeen (a b : Option Char) : Prop := a = b ∨ a = none ∧ b = some ')'

private theorem IsEnclosed.isSeen_getElem {s t : Cursor} (h : IsEnclosed s t) (n : Nat) :
    IsSeen s.rest[n]? t.rest[n]? := by
  rcases h.rest with hrest | ⟨hs, ht⟩
  · rw [hrest]
    rcases Nat.lt_trichotomy n s.rest.length with hn | rfl | hn
    · exact .inl (List.getElem?_append_left hn).symm
    · exact .inr ⟨by simp, by simp⟩
    · left
      rw [List.getElem?_eq_none (by omega), List.getElem?_eq_none (by simp; omega)]
  · exact .inl (by rw [hs, ht])

private theorem IsEnclosed.isSeen_head {s t : Cursor} (h : IsEnclosed s t) :
    IsSeen s.rest.head? t.rest.head? := by
  simpa [List.head?_eq_getElem?] using h.isSeen_getElem 0

private theorem agree_peek : Agree IsSeen peek peek :=
  agree_bind agree_get fun _ _ h => agree_pure h.isSeen_head

private theorem agree_peekSecond : Agree IsSeen peekSecond peekSecond :=
  agree_bind agree_get fun _ _ h => agree_pure (h.isSeen_getElem 1)

private theorem agree_current : Agree Eq current current := by
  refine agree_bind agree_get fun s t h => ?_
  rcases h.rest with hrest | ⟨hs, -⟩
  · cases hs : s.rest with
    | nil => exact agree_failure
    | cons c rest =>
      rw [hrest, hs]
      exact agree_pure rfl
  · rw [hs]
    exact agree_failure

private theorem IsEnclosed.drop {s t : Cursor} (h : IsEnclosed s t) (n : Nat) :
    IsEnclosed { s with rest := s.rest.drop n } { t with rest := t.rest.drop n } where
  rest := by
    rcases h.rest with hrest | ⟨hs, ht⟩
    · by_cases hn : n ≤ s.rest.length
      · exact .inl (by simp [hrest, List.drop_append_of_le_length hn])
      · right
        constructor
        · simp; omega
        · simp [hrest]; omega
    · exact .inr ⟨by simp [hs], by simp [ht]⟩
  skipsBlanks := h.skipsBlanks
  nextIndex := h.nextIndex
  names := h.names

private theorem agree_advance : Agree Eq advance advance := agree_modify fun _ _ h => h.drop 1

private theorem isBlank_paren : isBlank ')' = false := by decide

/-- A comment that is not closed before it takes in the parenthesis. -/
private theorem dropBlanks_concat (inComment : Bool) (cs : List Char) :
    dropBlanks inComment (cs ++ [')']) = dropBlanks inComment cs ++ [')'] ∨
      dropBlanks inComment cs = [] ∧ dropBlanks inComment (cs ++ [')']) = [] := by
  fun_induction dropBlanks inComment cs with
  | case1 inComment => cases inComment <;> simp [dropBlanks, isBlank_paren]
  | case2 c rest ih => simpa [dropBlanks] using ih
  | case3 inComment c rest hcomment hblank ih => simpa [dropBlanks, hcomment, hblank] using ih
  | case4 inComment rest hcomment hblank ih => simpa [dropBlanks, hcomment, hblank] using ih
  | case5 inComment c rest hcomment hblank hmark =>
    exact .inl (by simp [dropBlanks, hcomment, hblank, hmark])

private theorem agree_skipBlanks : Agree Eq skipBlanks skipBlanks := by
  refine agree_modify fun s t h => ?_
  rw [h.skipsBlanks]
  split
  · refine ⟨?_, rfl, h.nextIndex, h.names⟩
    rcases h.rest with hrest | ⟨hs, ht⟩
    · simpa [hrest] using dropBlanks_concat false s.rest
    · exact .inr ⟨by simp [hs, dropBlanks], by simp [ht, dropBlanks]⟩
  · exact h

private theorem agree_advanceSkipping : Agree Eq advanceSkipping advanceSkipping :=
  agree_bind_eq agree_advance fun _ => agree_skipBlanks

private theorem agree_require {c d : Bool} (h : c = true → d = true) :
    Agree Eq (require c) (require d) := by
  cases c with
  | false => exact agree_failure
  | true =>
    rw [h rfl]
    exact agree_pure rfl

private theorem agree_fuel : Agree (· ≤ ·) fuel fuel := by
  refine agree_bind agree_get fun s t h => agree_pure ?_
  rcases h.rest with hrest | ⟨hs, ht⟩
  · simp [hrest]
  · simp [hs, ht]

private theorem agree_accept {text : String} (h : ')' ∉ text.toList) :
    Agree Eq (accept text) (accept text) := by
  refine agree_bind agree_get fun s t hst => ?_
  have hsame : text.toList.isPrefixOf t.rest = text.toList.isPrefixOf s.rest := by
    rcases hst.rest with hrest | ⟨hs, ht⟩
    · rw [hrest, Bool.eq_iff_iff, List.isPrefixOf_iff_prefix, List.isPrefixOf_iff_prefix,
        List.prefix_concat_iff]
      exact or_iff_right fun heq => h (by simp [heq])
    · rw [hs, ht]
  dsimp only
  rw [hsame]
  refine agree_ite (fun _ => ?_) fun _ => agree_pure rfl
  exact agree_bind_eq (agree_set (hst.drop _)) fun _ => agree_pure rfl

private theorem run_accept (text : String) (s : Cursor) :
    (accept text).run s = some
      (if text.toList.isPrefixOf s.rest then
        (true, { s with rest := s.rest.drop text.toList.length })
      else (false, s)) := by
  show (if _ then _ else _ : Reading Bool).run s = _
  split <;> rfl

private theorem agree_accept_paren :
    Agree (fun a b => a = true → b = true) (accept ")") (accept ")") := by
  intro s t a s' b t' hst hrun hrun'
  have hparen : ")".toList = [')'] := by decide
  rw [run_accept, hparen, Option.some.injEq] at hrun hrun'
  rcases hst.rest with hrest | ⟨hs, ht⟩
  · cases hs : s.rest with
    | nil =>
      -- The second reader alone steps over a parenthesis, and then nothing is left for it either.
      rw [hs] at hrun
      rw [hrest, hs] at hrun'
      obtain ⟨rfl, rfl⟩ := Prod.mk.inj hrun
      obtain ⟨rfl, rfl⟩ := Prod.mk.inj hrun'
      exact ⟨(nomatch ·), .inr ⟨hs, rfl⟩, hst.skipsBlanks, hst.nextIndex, hst.names⟩
    | cons c rest =>
      have hsame : [')'].isPrefixOf t.rest = [')'].isPrefixOf s.rest := by
        rw [hrest, hs]
        rfl
      rw [hsame] at hrun'
      split at hrun
      · next hprefix =>
        rw [if_pos hprefix] at hrun'
        obtain ⟨rfl, rfl⟩ := Prod.mk.inj hrun
        obtain ⟨rfl, rfl⟩ := Prod.mk.inj hrun'
        exact ⟨id, hst.drop 1⟩
      · next hprefix =>
        rw [if_neg hprefix] at hrun'
        obtain ⟨rfl, rfl⟩ := Prod.mk.inj hrun
        obtain ⟨rfl, rfl⟩ := Prod.mk.inj hrun'
        exact ⟨id, hst⟩
  · rw [hs] at hrun
    rw [ht] at hrun'
    obtain ⟨rfl, rfl⟩ := Prod.mk.inj hrun
    obtain ⟨rfl, rfl⟩ := Prod.mk.inj hrun'
    exact ⟨id, hst⟩

/-- The reader that has more characters ahead has more fuel, too. -/
private theorem fuel_induction {motive : (n m : Nat) → n ≤ m → Prop}
    (zero : ∀ m, motive 0 m (Nat.zero_le m))
    (succ : ∀ n m (h : n ≤ m), motive n m h → motive (n + 1) (m + 1) (Nat.succ_le_succ h))
    (n m : Nat) (h : n ≤ m) : motive n m h := by
  induction n generalizing m with
  | zero => exact zero m
  | succ n ih =>
    cases m with
    | zero => exact absurd h (Nat.not_succ_le_zero n)
    | succ m => exact succ n m (Nat.le_of_succ_le_succ h) (ih m (Nat.le_of_succ_le_succ h))

/-! ### Literals, properties and escapes -/

private theorem agree_charOfHex (digits : List Char) :
    Agree Eq (charOfHex digits) (charOfHex digits) :=
  agree_bind_eq (agree_require id) fun _ => agree_pure rfl

private theorem agree_hexDigits (found : List Char) (n : Nat) :
    Agree Eq (hexDigits found n) (hexDigits found n) := by
  induction n generalizing found with
  | zero => exact agree_pure rfl
  | succ n ih =>
    refine agree_bind_eq agree_current fun c => ?_
    refine agree_bind_eq (agree_require id) fun _ => ?_
    exact agree_bind_eq agree_advanceSkipping fun _ => ih (c :: found)

private theorem agree_braced (found : List Char) {n m : Nat} (h : n ≤ m) :
    Agree Eq (braced found n) (braced found m) := by
  induction n, m, h using fuel_induction generalizing found with
  | zero m => exact agree_failure
  | succ n m _ ih =>
    refine agree_bind_eq agree_advanceSkipping fun _ => ?_
    refine agree_bind_eq agree_current fun c => ?_
    exact agree_ite (fun _ => agree_pure rfl) fun _ => ih (c :: found)

private theorem agree_hexLiteral (digits : Nat) :
    Agree Eq (hexLiteral digits) (hexLiteral digits) := by
  refine agree_bind_eq agree_advanceSkipping fun _ => ?_
  refine agree_bind_eq agree_current fun c => ?_
  refine agree_ite (fun _ => ?_) fun _ => ?_
  · refine agree_bind agree_fuel fun n m hnm => ?_
    refine agree_bind_eq (agree_braced [] hnm) fun ds => ?_
    refine agree_bind_eq (agree_require id) fun _ => ?_
    refine agree_bind_eq agree_advanceSkipping fun _ => ?_
    exact agree_bind_eq (agree_charOfHex ds) fun _ => agree_pure rfl
  · refine agree_bind_eq (agree_hexDigits [] digits) fun ds => ?_
    exact agree_bind_eq (agree_charOfHex ds) fun _ => agree_pure rfl

private theorem agree_propertyClass (negated : Bool) :
    Agree Eq (propertyClass negated) (propertyClass negated) := by
  refine agree_bind_eq agree_advanceSkipping fun _ => ?_
  refine agree_bind_eq agree_current fun c => ?_
  refine agree_ite (fun _ => ?_) fun _ => ?_
  · refine agree_bind agree_fuel fun n m hnm => ?_
    refine agree_bind_eq (agree_braced [] hnm) fun name => ?_
    exact agree_bind_eq agree_advance fun _ => agree_pure rfl
  · refine agree_bind_eq (agree_require id) fun _ => ?_
    exact agree_bind_eq agree_advanceSkipping fun _ => agree_pure rfl

private theorem agree_boundaryLetters (found : List Char) {n m : Nat} (h : n ≤ m) :
    Agree Eq (boundaryLetters found n) (boundaryLetters found m) := by
  induction n, m, h using fuel_induction generalizing found with
  | zero m => exact agree_failure
  | succ n m _ ih =>
    refine agree_bind agree_peek fun a b hab => ?_
    rcases hab with rfl | ⟨rfl, rfl⟩
    · cases a with
      | none => exact agree_pure rfl
      | some c =>
        refine agree_ite (fun _ => ?_) fun _ => agree_pure rfl
        exact agree_bind_eq agree_advanceSkipping fun _ => ih (c :: found)
    · exact agree_pure rfl

private theorem agree_specialBoundary : Agree Eq specialBoundary specialBoundary := by
  refine agree_bind agree_get fun s t hst => ?_
  rcases hst.isSeen_head with hsame | ⟨hs, ht⟩
  · rw [← hsame]
    refine agree_ite (fun _ => agree_pure rfl) fun _ => ?_
    refine agree_bind_eq agree_advanceSkipping fun _ => ?_
    refine agree_bind_eq agree_current fun c => ?_
    refine agree_ite (fun _ => ?_) fun _ => ?_
    · exact agree_bind_eq (agree_set hst) fun _ => agree_pure rfl
    · refine agree_bind agree_fuel fun n m hnm => ?_
      refine agree_bind_eq (agree_boundaryLetters [] hnm) fun name => ?_
      refine agree_bind_eq agree_current fun d => ?_
      refine agree_bind_eq (agree_require id) fun _ => ?_
      refine agree_bind_eq agree_advance fun _ => ?_
      split <;> first | exact agree_pure rfl | exact agree_failure
  · rw [hs, ht]
    exact agree_pure rfl

private theorem agree_escapeSequence : Agree Eq escapeSequence escapeSequence := by
  refine agree_bind_eq agree_advance fun _ => ?_
  refine agree_bind_eq agree_current fun c => ?_
  split
  · exact agree_bind_eq (agree_hexLiteral 2) fun _ => agree_pure rfl
  · exact agree_bind_eq (agree_hexLiteral 4) fun _ => agree_pure rfl
  · exact agree_bind_eq (agree_hexLiteral 8) fun _ => agree_pure rfl
  · exact agree_bind_eq (agree_propertyClass _) fun _ => agree_pure rfl
  · exact agree_bind_eq (agree_propertyClass _) fun _ => agree_pure rfl
  · refine agree_bind_eq agree_advance fun _ => ?_
    refine agree_ite (fun _ => agree_pure rfl) fun _ => ?_
    split <;> first
      | exact agree_pure rfl
      | exact agree_failure
      | exact agree_bind_eq agree_specialBoundary fun _ => agree_pure rfl

/-! ### Bracketed classes -/

/-- Where a character is found at which a search stops, the parenthesis makes no difference. -/
private theorem dropWhile_concat {p : Char → Bool} {cs rest : List Char} {c : Char}
    (h : cs.dropWhile p = c :: rest) :
    (cs ++ [')']).dropWhile p = c :: (rest ++ [')']) ∧
      (cs ++ [')']).takeWhile p = cs.takeWhile p := by
  have hlength : (cs.takeWhile p).length ≠ cs.length := fun heq => by
    have hsplit := congrArg List.length (List.takeWhile_append_dropWhile (p := p) (l := cs))
    simp [h, heq] at hsplit
  exact ⟨by simp [List.dropWhile_append, h], by simp [List.takeWhile_append, hlength]⟩

private theorem agree_namedAscii : Agree Eq namedAscii namedAscii := by
  refine agree_bind agree_get fun s t hst => ?_
  rcases hst.rest with hrest | ⟨hs, ht⟩
  · dsimp only
    split
    · next after hs =>
      have hhead : ((after ++ [')']).head? == some '^') = (after.head? == some '^') := by
        cases after <;> rfl
      have hbody : (if (after.head? == some '^') = true then (after ++ [')']).drop 1
          else after ++ [')']) =
          (if (after.head? == some '^') = true then after.drop 1 else after) ++ [')'] := by
        cases after with
        | nil => rfl
        | cons c after => split <;> rfl
      rw [hrest, hs]
      simp only [List.cons_append, hhead, hbody]
      generalize (if (after.head? == some '^') = true then after.drop 1 else after) = body
      cases hcolon : body.dropWhile (· != ':') with
      | nil =>
        have hnil : (body ++ [')']).dropWhile (· != ':') = [] := by
          simp [List.dropWhile_append, hcolon]
        rw [hnil]
        exact agree_pure rfl
      | cons c rest =>
        obtain ⟨hdrop, htake⟩ := dropWhile_concat hcolon
        rw [hdrop, htake]
        split
        · next rest kind hrest' hkind =>
          obtain ⟨rfl, rfl⟩ := List.cons.inj hrest'
          rw [hkind]
          exact agree_bind_eq (agree_set ⟨.inl rfl, hst.skipsBlanks, hst.nextIndex, hst.names⟩)
            fun _ => agree_pure rfl
        · next hnone =>
          split
          · next rest' kind hrest' hkind =>
            obtain ⟨rfl, hbracket⟩ := List.cons.inj hrest'
            cases rest with
            | nil => simp at hbracket
            | cons d rest =>
              obtain ⟨rfl, -⟩ := List.cons.inj hbracket
              exact absurd hkind (hnone rest kind rfl)
          · exact agree_pure rfl
    · next hnone =>
      split
      · next after ht =>
        rw [hrest] at ht
        rcases hs : s.rest with _ | ⟨c, _ | ⟨d, rest⟩⟩ <;> simp_all
      · exact agree_pure rfl
  · rw [hs, ht]
    exact agree_pure rfl

private theorem agree_leadingHyphens (found : List ClassItem) {n m : Nat} (h : n ≤ m) :
    Agree Eq (leadingHyphens found n) (leadingHyphens found m) := by
  induction n, m, h using fuel_induction generalizing found with
  | zero m => exact agree_failure
  | succ n m _ ih =>
    refine agree_bind_eq agree_current fun c => ?_
    refine agree_ite (fun _ => ?_) fun _ => agree_pure rfl
    exact agree_bind_eq agree_advanceSkipping fun _ => ih _

private theorem agree_openBracket : Agree Eq openBracket openBracket := by
  refine agree_bind_eq agree_advanceSkipping fun _ => ?_
  refine agree_bind_eq agree_current fun c => ?_
  refine agree_when (c := c = '^') agree_advanceSkipping ?_
  refine agree_bind agree_fuel fun n m hnm => ?_
  refine agree_bind_eq (agree_leadingHyphens [] hnm) fun hyphens => ?_
  refine agree_bind_eq agree_current fun d => ?_
  refine agree_ite (fun _ => ?_) fun _ => agree_pure rfl
  refine agree_bind_eq agree_advanceSkipping fun _ => ?_
  exact agree_bind_eq agree_current fun _ => agree_pure rfl

private theorem agree_classPrimitive : Agree Eq classPrimitive classPrimitive := by
  refine agree_bind_eq agree_current fun c => ?_
  refine agree_ite (fun _ => agree_escapeSequence) fun _ => ?_
  exact agree_bind_eq agree_advance fun _ => agree_pure rfl

private theorem agree_toLiteral (p : Primitive) : Agree Eq p.toLiteral p.toLiteral := by
  cases p <;> first | exact agree_pure rfl | exact agree_failure

private theorem agree_toItem (p : Primitive) : Agree Eq p.toItem p.toItem := by
  cases p <;> first | exact agree_pure rfl | exact agree_failure

private theorem dropWhile_isBlank_concat (cs : List Char) :
    (cs ++ [')']).dropWhile isBlank = cs.dropWhile isBlank ++ [')'] := by
  rw [List.dropWhile_append]
  split
  · next h =>
    rw [List.isEmpty_iff.mp h]
    simp [isBlank_paren]
  · rfl

private theorem dropBlanksAndMark_concat (cs : List Char) :
    dropBlanksAndMark (cs ++ [')']) = dropBlanksAndMark cs ++ [')'] := by
  unfold dropBlanksAndMark
  rw [dropWhile_isBlank_concat]
  cases cs.dropWhile isBlank with
  | nil => simp
  | cons c rest =>
    by_cases hc : c = '#'
    · subst hc
      exact dropWhile_isBlank_concat rest
    · simp [hc]

private theorem agree_peekPastBlanks : Agree IsSeen peekPastBlanks peekPastBlanks := by
  refine agree_bind agree_get fun s t hst => agree_pure ?_
  have hdrop := hst.drop 1
  rw [hst.skipsBlanks]
  split
  · refine IsEnclosed.isSeen_head (s := { s with rest := dropBlanksAndMark (s.rest.drop 1) })
      (t := { t with rest := dropBlanksAndMark (t.rest.drop 1) })
      ⟨?_, hst.skipsBlanks, hst.nextIndex, hst.names⟩
    rcases hdrop.rest with hrest | ⟨hs, ht⟩
    · dsimp only at hrest
      exact .inl (by rw [hrest, dropBlanksAndMark_concat])
    · dsimp only at hs ht
      exact .inr ⟨by rw [hs]; rfl, by rw [ht]; rfl⟩
  · exact hdrop.isSeen_head

private theorem agree_classRange : Agree Eq classRange classRange := by
  refine agree_bind_eq agree_classPrimitive fun first => ?_
  refine agree_bind_eq agree_skipBlanks fun _ => ?_
  refine agree_bind_eq agree_current fun c => ?_
  refine agree_bind agree_peekPastBlanks fun a b hab => ?_
  have hsame : (c != '-' || b == some ']' || b == some '-') =
      (c != '-' || a == some ']' || a == some '-') := by
    rcases hab with rfl | ⟨rfl, rfl⟩ <;> rfl
  rw [hsame]
  refine agree_ite (fun _ => agree_toItem first) fun _ => ?_
  refine agree_bind_eq agree_advanceSkipping fun _ => ?_
  refine agree_bind_eq agree_current fun _ => ?_
  refine agree_bind_eq agree_classPrimitive fun last => ?_
  refine agree_bind_eq (agree_toLiteral first) fun lo => ?_
  refine agree_bind_eq (agree_toLiteral last) fun hi => ?_
  exact agree_bind_eq (agree_require id) fun _ => agree_pure rfl

private theorem agree_classBody (pending : Option (ClassBody × SetOperation))
    (found : List ClassItem) {n m : Nat} (h : n ≤ m) :
    Agree Eq (classBody pending found n) (classBody pending found m) := by
  induction n, m, h using fuel_induction generalizing pending found with
  | zero m => exact agree_failure
  | succ n m _ ih =>
    refine agree_bind_eq agree_skipBlanks fun _ => ?_
    refine agree_bind_eq agree_current fun c => ?_
    refine agree_bind agree_peekSecond fun a b hab => ?_
    have hsame {mark : Char} (hmark : mark ≠ ')') : (b == some mark) = (a == some mark) := by
      rcases hab with rfl | ⟨rfl, rfl⟩
      · rfl
      · simp [Ne.symm hmark]
    rw [hsame (by decide : '&' ≠ ')'), hsame (by decide : '-' ≠ ')'),
      hsame (by decide : '~' ≠ ')')]
    refine agree_ite (fun _ => ?_) fun _ => agree_ite (fun _ => ?_) fun _ =>
      agree_ite (fun _ => ?_) fun _ => agree_ite (fun _ => ?_) fun _ =>
      agree_ite (fun _ => ?_) fun _ => ?_
    · refine agree_bind_eq agree_namedAscii fun item => ?_
      cases item with
      | some item => exact ih _ _
      | none =>
        refine agree_bind_eq agree_openBracket fun opened => ?_
        refine agree_bind_eq (ih none opened.2) fun body => ?_
        exact ih _ _
    · exact agree_bind_eq agree_advance fun _ => agree_pure rfl
    · exact agree_bind_eq agree_advance fun _ => agree_bind_eq agree_advance fun _ => ih _ _
    · exact agree_bind_eq agree_advance fun _ => agree_bind_eq agree_advance fun _ => ih _ _
    · exact agree_bind_eq agree_advance fun _ => agree_bind_eq agree_advance fun _ => ih _ _
    · refine agree_bind_eq agree_classRange fun item => ?_
      exact ih _ _

/-! ### Groups and repetitions -/

private theorem agree_groupName (index : Nat) : Agree Eq (groupName index) (groupName index) := by
  refine agree_bind agree_get fun s t hst => ?_
  dsimp only
  split
  · next first others rest hname hdrop =>
    rcases hst.rest with hrest | ⟨hs, -⟩
    · obtain ⟨hdrop', htake⟩ := dropWhile_concat hdrop
      rw [hrest, hdrop', htake, hname, hst.names]
      refine agree_bind_eq (agree_require id) fun _ => ?_
      refine agree_bind_eq (agree_require id) fun _ => ?_
      exact agree_set ⟨.inl rfl, hst.skipsBlanks, hst.nextIndex, rfl⟩
    · simp [hs] at hname
  · exact agree_failure

private theorem agree_nextCapture : Agree Eq nextCapture nextCapture := by
  refine agree_bind agree_get fun s t hst => ?_
  rw [hst.nextIndex]
  exact agree_bind_eq (agree_set ⟨hst.rest, hst.skipsBlanks, rfl, hst.names⟩) fun _ =>
    agree_pure rfl

private theorem agree_flagChange (enables dangling : Bool) (found : FlagChange) {n m : Nat}
    (h : n ≤ m) :
    Agree Eq (flagChange enables dangling found n) (flagChange enables dangling found m) := by
  induction n, m, h using fuel_induction generalizing enables dangling found with
  | zero m => exact agree_failure
  | succ n m _ ih =>
    refine agree_bind_eq agree_current fun c => ?_
    refine agree_ite (fun _ => ?_) fun _ => ?_
    · exact agree_bind_eq (agree_require id) fun _ => agree_pure rfl
    · refine agree_bind_eq agree_advance fun _ => agree_ite (fun _ => ?_) fun _ => ?_
      · exact agree_bind_eq (agree_require id) fun _ => ih _ _ _
      · split
        · exact agree_failure
        · exact agree_bind_eq (agree_require id) fun _ => ih _ _ _

private theorem agree_opening : Agree Eq opening opening := by
  refine agree_bind_eq agree_advanceSkipping fun _ => ?_
  refine agree_bind_eq (agree_accept (by decide)) fun a => ?_
  refine agree_bind_eq (agree_accept (by decide)) fun b => ?_
  refine agree_bind_eq (agree_accept (by decide)) fun c => ?_
  refine agree_bind_eq (agree_accept (by decide)) fun d => ?_
  refine agree_when (c := (a || b || c || d) = true) agree_failure ?_
  refine agree_bind_eq (agree_accept (by decide)) fun a => ?_
  refine agree_bind_eq (agree_accept (by decide)) fun b => ?_
  refine agree_ite (fun _ => ?_) fun _ => ?_
  · refine agree_bind_eq agree_nextCapture fun index => ?_
    exact agree_bind_eq (agree_groupName index) fun _ => agree_pure rfl
  · refine agree_bind_eq (agree_accept (by decide)) fun a => ?_
    refine agree_ite (fun _ => ?_) fun _ => ?_
    · refine agree_bind agree_fuel fun n m hnm => ?_
      refine agree_bind_eq (agree_flagChange true false [] hnm) fun change => ?_
      refine agree_bind_eq agree_current fun c => ?_
      refine agree_bind_eq agree_advance fun _ => agree_ite (fun _ => ?_) fun _ => agree_pure rfl
      exact agree_bind_eq (agree_require id) fun _ => agree_pure rfl
    · exact agree_bind_eq agree_nextCapture fun _ => agree_pure rfl

private theorem agree_repeated (parts : List Expression) :
    Agree Eq (repeated parts) (repeated parts) := by
  unfold repeated
  split <;> first | exact agree_pure rfl | exact agree_failure

private theorem agree_decimalDigits (found : List Char) {n m : Nat} (h : n ≤ m) :
    Agree Eq (decimalDigits found n) (decimalDigits found m) := by
  induction n, m, h using fuel_induction generalizing found with
  | zero m => exact agree_failure
  | succ n m _ ih =>
    refine agree_bind agree_peek fun a b hab => ?_
    rcases hab with rfl | ⟨rfl, rfl⟩
    · cases a with
      | none => exact agree_pure rfl
      | some c =>
        refine agree_ite (fun _ => ?_) fun _ => agree_pure rfl
        exact agree_bind_eq agree_advanceSkipping fun _ => ih (c :: found)
    · exact agree_pure rfl

private theorem agree_skipInner : Agree Eq skipInner skipInner := by
  refine agree_modify fun s t h => ⟨?_, h.skipsBlanks, h.nextIndex, h.names⟩
  rcases h.rest with hrest | ⟨hs, ht⟩
  · exact .inl (by simp only [hrest, dropWhile_isBlank_concat])
  · exact .inr ⟨by simp [hs], by simp [ht]⟩

private theorem agree_count : Agree Eq count? count? := by
  refine agree_bind_eq agree_skipInner fun _ => ?_
  refine agree_bind agree_fuel fun n m hnm => ?_
  refine agree_bind_eq (agree_decimalDigits [] hnm) fun ds => ?_
  refine agree_bind_eq agree_skipInner fun _ => ?_
  refine agree_bind_eq agree_skipBlanks fun _ => ?_
  refine agree_bind_eq agree_skipInner fun _ => ?_
  refine agree_ite (fun _ => agree_pure rfl) fun _ => ?_
  exact agree_bind_eq (agree_require id) fun _ => agree_pure rfl

private theorem agree_lazyMark : Agree Eq lazyMark lazyMark := agree_accept (by decide)

private theorem agree_countedRepetition (parts : List Expression) :
    Agree Eq (countedRepetition parts) (countedRepetition parts) := by
  refine agree_bind_eq (agree_repeated parts) fun last => ?_
  refine agree_bind_eq agree_advanceSkipping fun _ => ?_
  refine agree_bind_eq agree_current fun _ => ?_
  refine agree_bind_eq agree_count fun least => ?_
  refine agree_bind_eq agree_current fun c => ?_
  refine agree_bind_eq (agree_ite (fun _ => ?_) fun _ => ?_) fun bounds => ?_
  · refine agree_bind_eq agree_advanceSkipping fun _ => ?_
    refine agree_bind_eq agree_current fun d => ?_
    cases least with
    | none => exact agree_failure
    | some lo =>
      refine agree_ite (fun _ => agree_pure rfl) fun _ => ?_
      refine agree_bind_eq agree_count fun most => ?_
      cases most with
      | none => exact agree_failure
      | some hi => exact agree_pure rfl
  · cases least with
    | none => exact agree_failure
    | some lo => exact agree_pure rfl
  · refine agree_bind_eq agree_current fun d => ?_
    refine agree_bind_eq (agree_require id) fun _ => ?_
    refine agree_bind_eq agree_advanceSkipping fun _ => ?_
    refine agree_bind_eq agree_lazyMark fun isLazy => ?_
    exact agree_bind_eq (agree_require id) fun _ => agree_pure rfl

private theorem agree_simpleRepetition (least : Nat) (most : Option Nat) (parts : List Expression) :
    Agree Eq (simpleRepetition least most parts) (simpleRepetition least most parts) := by
  refine agree_bind_eq (agree_repeated parts) fun last => ?_
  refine agree_bind_eq agree_advance fun _ => ?_
  exact agree_bind_eq agree_lazyMark fun _ => agree_pure rfl

private theorem agree_primitive : Agree Eq primitive primitive := by
  refine agree_bind_eq agree_current fun c => ?_
  split
  · refine agree_bind_eq agree_escapeSequence fun form => ?_
    cases form <;> exact agree_pure rfl
  · exact agree_bind_eq agree_advance fun _ => agree_pure rfl
  · exact agree_bind_eq agree_advance fun _ => agree_pure rfl
  · exact agree_bind_eq agree_advance fun _ => agree_pure rfl
  · exact agree_bind_eq agree_advance fun _ => agree_pure rfl

/-! ### Whole notations -/

private theorem agree_close (outer : Bool) {m m' : Reading Expression} (h : Agree Eq m m') :
    Agree Eq
      (do
        require (← accept ")")
        modify fun s => { s with skipsBlanks := outer }
        m)
      (do
        require (← accept ")")
        modify fun s => { s with skipsBlanks := outer }
        m') := by
  refine agree_bind agree_accept_paren fun _ _ hclosed => ?_
  refine agree_bind_eq (agree_require hclosed) fun _ => ?_
  refine agree_bind_eq (agree_modify fun s t hst => ?_) fun _ => h
  exact ⟨hst.rest, rfl, hst.nextIndex, hst.names⟩

private theorem agree_branchesFrom (branches parts : List Expression) {n m : Nat} (h : n ≤ m) :
    Agree Eq (branchesFrom branches parts n) (branchesFrom branches parts m) := by
  induction n, m, h using fuel_induction generalizing branches parts with
  | zero m => exact agree_failure
  | succ n m _ ih =>
    refine agree_bind_eq agree_skipBlanks fun _ => ?_
    refine agree_bind agree_peek fun a b hab => ?_
    rcases hab with rfl | ⟨rfl, rfl⟩
    · split
      · exact agree_pure rfl
      · exact agree_pure rfl
      · exact agree_bind_eq agree_advance fun _ => ih _ _
      · refine agree_bind_eq agree_opening fun opened => ?_
        cases opened with
        | directive change =>
          refine agree_bind_eq (agree_modify fun s t hst => ?_) fun _ => ih _ _
          exact ⟨hst.rest, by rw [hst.skipsBlanks], hst.nextIndex, hst.names⟩
        | group change =>
          refine agree_bind agree_get fun s t hst => ?_
          rw [hst.skipsBlanks]
          refine agree_bind_eq (agree_modify fun s t hst => ?_) fun _ => ?_
          · exact ⟨hst.rest, rfl, hst.nextIndex, hst.names⟩
          refine agree_bind_eq (ih [] []) fun body => ?_
          exact agree_close s.skipsBlanks (ih _ _)
        | capture index =>
          refine agree_bind agree_get fun s t hst => ?_
          rw [hst.skipsBlanks]
          refine agree_bind_eq (ih [] []) fun body => ?_
          exact agree_close s.skipsBlanks (ih _ _)
      · refine agree_bind_eq agree_openBracket fun opened => ?_
        refine agree_bind agree_fuel fun k l hkl => ?_
        refine agree_bind_eq (agree_classBody none opened.2 hkl) fun body => ?_
        exact ih _ _
      · exact agree_bind_eq (agree_simpleRepetition _ _ _) fun _ => ih _ _
      · exact agree_bind_eq (agree_simpleRepetition _ _ _) fun _ => ih _ _
      · exact agree_bind_eq (agree_simpleRepetition _ _ _) fun _ => ih _ _
      · exact agree_bind_eq (agree_countedRepetition _) fun _ => ih _ _
      · exact agree_bind_eq agree_primitive fun _ => ih _ _
    · exact agree_pure rfl

private theorem run_branchesFrom_lineStart (branches parts : List Expression) (n index : Nat)
    (names : List (String × Nat)) (rest : List Char) :
    (branchesFrom branches parts (n + 1)).run ⟨'^' :: rest, false, index, names⟩ =
      (branchesFrom branches (.assertion .lineStart :: parts) n).run ⟨rest, false, index, names⟩ :=
  rfl

private theorem run_branchesFrom_group (branches parts : List Expression) (n index : Nat)
    (names : List (String × Nat)) (rest : List Char) :
    (branchesFrom branches parts (n + 1)).run ⟨'(' :: '?' :: ':' :: rest, false, index, names⟩ =
      (do
        let body ← branchesFrom [] [] n
        require (← accept ")")
        modify fun s => { s with skipsBlanks := false }
        branchesFrom branches (.group [] body :: parts) n : Reading Expression).run
          ⟨rest, false, index, names⟩ :=
  rfl

end Reading

private theorem run_of_parse? {cs : List Char} {parsed : Parsed} (h : parse? cs = some parsed) :
    ∃ stop, (Reading.branchesFrom [] [] (cs.length + 1)).run ⟨cs, false, 1, []⟩ =
      some (parsed.expression, stop) ∧ stop.rest = [] := by
  obtain ⟨⟨e, stop⟩, hrun, hfinish⟩ := Option.bind_eq_some_iff.mp h
  obtain ⟨hstop, hparsed⟩ := Option.ite_none_right_eq_some.mp hfinish
  rw [Bool.and_eq_true] at hstop
  rw [← Option.some.inj hparsed]
  exact ⟨stop, hrun, List.isEmpty_iff.mp hstop.1⟩

/-- Tied to the start of the line, a notation that may stand by itself is read as the condition that
the line starts, and what is read of it alone. -/
theorem expression_of_enclosed {own : List Char} {alone parsed : Parsed}
    (halone : parse? own = some alone)
    (hparsed : parse? ('^' :: '(' :: '?' :: ':' :: (own ++ [')'])) = some parsed) :
    parsed.expression = .concatenation [.assertion .lineStart, .group [] alone.expression] := by
  obtain ⟨stopAlone, halone, hnil⟩ := run_of_parse? halone
  obtain ⟨stop, hparsed, -⟩ := run_of_parse? hparsed
  rw [List.length_cons, List.length_cons, Reading.run_branchesFrom_lineStart,
    Reading.run_branchesFrom_group] at hparsed
  obtain ⟨⟨body, inner⟩, hbody, hrest⟩ := Option.bind_eq_some_iff.mp hparsed
  have hfuel : own.length + 1 ≤ ('?' :: ':' :: (own ++ [')'])).length + 1 := by simp
  obtain ⟨hsame, hinner⟩ := Reading.agree_branchesFrom [] [] hfuel ⟨own, false, 1, []⟩
    ⟨own ++ [')'], false, 1, []⟩ _ _ _ _ ⟨.inl rfl, rfl, rfl, rfl⟩ halone hbody
  subst hsame
  obtain ⟨left, skipsBlanks, index, names⟩ := inner
  have hleft := hinner.rest
  rw [hnil] at hleft
  rcases hleft with rfl | ⟨-, rfl⟩
  · -- The parenthesis closes the group, and nothing comes after it.
    exact (congrArg Prod.fst (Option.some.inj hrest)).symm
  · -- A comment has taken in the parenthesis, and the group is not closed.
    exact nomatch (hrest : none = some _)

end PxeLaunch.Regex

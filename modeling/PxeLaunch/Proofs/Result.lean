import Mathlib.Data.List.Forall2
import PxeLaunch.Project.Error

/-!
Steps that may fail, one after another. What comes out of them all is taken apart into what came out
of each.
-/

set_option autoImplicit false

namespace PxeLaunch

variable {ε ε' α β : Type}

@[simp] theorem ok_bind (a : α) (g : α → Except ε β) : (.ok a >>= g) = g a := rfl

@[simp] theorem error_bind (e : ε) (g : α → Except ε β) : (.error e >>= g) = .error e := rfl

theorem bind_eq_ok {x : Except ε α} {g : α → Except ε β} {b : β} :
    (x >>= g) = .ok b ↔ ∃ a, x = .ok a ∧ g a = .ok b := by
  cases x <;> simp [bind, Except.bind]

theorem pure_eq_ok {a b : α} : (pure a : Except ε α) = .ok b ↔ a = b := by
  simp [pure, Except.pure]

theorem map_eq_ok {f : α → β} {x : Except ε α} {b : β} :
    x.map f = .ok b ↔ ∃ a, x = .ok a ∧ f a = b := by
  cases x <;> simp [Except.map]

theorem map_eq_error {f : α → β} {x : Except ε α} {e : ε} :
    x.map f = .error e ↔ x = .error e := by
  cases x <;> simp [Except.map]

theorem mapError_eq_ok {f : ε → ε'} {x : Except ε α} {a : α} :
    x.mapError f = .ok a ↔ x = .ok a := by
  cases x <;> simp [Except.mapError]

theorem exists_mapM_eq_ok {f : α → Except ε β} {l : List α} (h : ∀ a ∈ l, ∃ b, f a = .ok b) :
    ∃ bs, l.mapM f = .ok bs ∧ List.Forall₂ (fun a b => f a = .ok b) l bs := by
  induction l with
  | nil => exact ⟨[], List.mapM_nil, .nil⟩
  | cons a rest ih =>
    obtain ⟨b, hb⟩ := h a List.mem_cons_self
    obtain ⟨bs, hbs, hall⟩ := ih fun a' ha' => h a' (List.mem_cons_of_mem a ha')
    refine ⟨b :: bs, ?_, .cons hb hall⟩
    rw [List.mapM_cons, hb, ok_bind, hbs, ok_bind]
    rfl

theorem forall₂_of_mapM_eq_ok {f : α → Except ε β} {l : List α} {bs : List β}
    (h : l.mapM f = .ok bs) : List.Forall₂ (fun a b => f a = .ok b) l bs := by
  induction l generalizing bs with
  | nil =>
    rw [List.mapM_nil, pure_eq_ok] at h
    exact h ▸ .nil
  | cons a rest ih =>
    rw [List.mapM_cons, bind_eq_ok] at h
    obtain ⟨b, hb, hrest⟩ := h
    obtain ⟨bs', hbs, hcons⟩ := bind_eq_ok.mp hrest
    exact pure_eq_ok.mp hcons ▸ .cons hb (ih hbs)

theorem exists_mem_of_forall₂ {R : α → β → Prop} {l : List α} {bs : List β}
    (h : List.Forall₂ R l bs) {b : β} (hb : b ∈ bs) : ∃ a ∈ l, R a b := by
  induction h with
  | nil => simp at hb
  | @cons a c rest _ hac _ ih =>
    rcases List.mem_cons.mp hb with rfl | hb
    · exact ⟨a, List.mem_cons_self, hac⟩
    · obtain ⟨a', ha', hR⟩ := ih hb
      exact ⟨a', List.mem_cons_of_mem a ha', hR⟩

/-! ### Errors -/

/-- The error of a step, if it fails, is one of a kind. -/
def FailsWith (P : ε → Prop) (x : Except ε α) : Prop := ∀ e, x = .error e → P e

namespace FailsWith

variable {P : ε → Prop} {Q : ε' → Prop}

theorem ok (a : α) : FailsWith P (.ok a) := by
  intro e h
  cases h

theorem error {e : ε} (h : P e) : FailsWith P (.error e : Except ε α) := by
  intro e' h'
  cases h'
  exact h

theorem bind {x : Except ε α} {g : α → Except ε β} (hx : FailsWith P x)
    (hg : ∀ a, FailsWith P (g a)) : FailsWith P (x >>= g) := by
  cases x with
  | ok a => exact hg a
  | error e => exact error (hx e rfl)

theorem mapError {f : ε → ε'} {x : Except ε α} (hx : FailsWith P x) (hf : ∀ e, P e → Q (f e)) :
    FailsWith Q (x.mapError f) := by
  cases x with
  | ok a => exact ok a
  | error e => exact error (hf e (hx e rfl))

theorem of_mapError {f : ε → ε'} (hf : ∀ e, Q (f e)) (x : Except ε α) :
    FailsWith Q (x.mapError f) :=
  FailsWith.mapError (P := fun _ => True) (fun _ _ => trivial) fun e _ => hf e

end FailsWith

theorem toOption_eq_some {x : Except ε α} {a : α} : x.toOption = some a ↔ x = .ok a := by
  cases x <;> simp [Except.toOption]

theorem ProjectError.ofProfile_eq_ok {x : Except ProfileError α} {a : α} :
    ProjectError.ofProfile x = .ok a ↔ x = .ok a := mapError_eq_ok

end PxeLaunch

import PxeLaunch.Proofs.Profile.Registry

/-!
Tables of profiles over time. Profiles are registered, one after another and with refusals in
between, and builtin profiles fill free places. Whatever has been done to a table that was empty at
first, a place holds the profile that came first, and all ways to look profiles up agree.
-/

set_option autoImplicit false

namespace PxeLaunch

private theorem Architecture.mem_all (a : Architecture) : a ∈ Architecture.all := by
  cases a <;> decide

private theorem Architecture.pairwise_position_all :
    Architecture.all.Pairwise fun a b => a.position < b.position := by
  decide

private theorem Profile.checkDevice_builtin (a : Architecture) :
    (Profile.builtin a).checkDevice = .ok () := by
  cases a <;> rfl

namespace Registry

inductive Operation where
  | register (p : Profile)
  | fillBuiltins

def perform (r : Registry) : Operation → Registry
  | .register p => (r.takeIn p).1
  | .fillBuiltins => r.fillBuiltins

def performAll (r : Registry) (operations : List Operation) : Registry :=
  operations.foldl perform r

variable {r r' : Registry}

/-! ### Proper tables -/

/-- Every profile is in the place of its own architecture, and its firmware has a driver for its
device. -/
def IsProper (r : Registry) : Prop :=
  ∀ a p, r.get? a = some p → p.architecture = a ∧ p.checkDevice = .ok ()

/-- Each place that has a profile in the first table has the same one in the second. -/
def IsKeptBy (r r' : Registry) : Prop := ∀ a p, r.get? a = some p → r'.get? a = some p

private theorem isProper_empty : empty.IsProper := by
  intro a p h
  simp at h

private theorem isKeptBy_refl (r : Registry) : r.IsKeptBy r := fun _ _ h => h

/-- All that an operation does to a place: it leaves it alone, or it puts a profile that belongs
there where there was none. -/
private theorem get?_perform (r : Registry) (o : Operation) (a : Architecture) :
    (r.perform o).get? a = r.get? a ∨
      r.get? a = none ∧ ∃ p, (r.perform o).get? a = some p ∧ p.architecture = a ∧
        p.checkDevice = .ok () := by
  cases o with
  | register p =>
    cases htaken : r.takeIn p with
    | mk next answer =>
      rw [perform, htaken]
      cases answer with
      | error e => exact .inl (by rw [(takeIn_eq_error.mp htaken).1])
      | ok _ =>
        obtain ⟨hfree, hdevice, hself, hothers⟩ := takeIn_eq_ok.mp htaken
        by_cases ha : a = p.architecture
        · subst ha
          exact .inr ⟨hfree, p, hself, rfl, hdevice⟩
        · exact .inl (hothers a ha)
  | fillBuiltins =>
    rw [perform, get?_fillBuiltins]
    cases hget : r.get? a with
    | some p => exact .inl rfl
    | none =>
      exact .inr ⟨rfl, _, rfl, Profile.architecture_builtin a, Profile.checkDevice_builtin a⟩

private theorem IsProper.perform (h : r.IsProper) (o : Operation) : (r.perform o).IsProper := by
  intro a p hp
  obtain hsame | ⟨-, q, hq, hproper⟩ := get?_perform r o a
  · exact h a p (hsame ▸ hp)
  · rw [hq, Option.some.injEq] at hp
    exact hp ▸ hproper

private theorem isKeptBy_perform (r : Registry) (o : Operation) : r.IsKeptBy (r.perform o) := by
  intro a p hp
  obtain hsame | ⟨hfree, -⟩ := get?_perform r o a
  · rw [hsame, hp]
  · simp [hfree] at hp

private theorem IsProper.performAll (h : r.IsProper) (operations : List Operation) :
    (r.performAll operations).IsProper := by
  induction operations generalizing r with
  | nil => exact h
  | cons o rest ih => exact ih (h.perform o)

private theorem isKeptBy_performAll (r : Registry) (operations : List Operation) :
    r.IsKeptBy (r.performAll operations) := by
  induction operations generalizing r with
  | nil => exact isKeptBy_refl r
  | cons o rest ih => exact fun a p hp => ih (r.perform o) a p (isKeptBy_perform r o a p hp)

/-! ### Lists of profiles -/

private theorem IsProper.mem_toList (h : r.IsProper) {p : Profile} :
    p ∈ r.toList ↔ r.get? p.architecture = some p := by
  rw [toList, List.mem_filterMap]
  constructor
  · rintro ⟨a, -, ha⟩
    rwa [(h a p ha).1]
  · intro hp
    exact ⟨p.architecture, Architecture.mem_all _, hp⟩

private theorem IsProper.pairwise_toList (h : r.IsProper) :
    r.toList.Pairwise fun p q => p.architecture.position < q.architecture.position := by
  rw [toList, List.pairwise_filterMap]
  refine Architecture.pairwise_position_all.imp fun {a b} hab p hp q hq => ?_
  rwa [(h a p hp).1, (h b q hq).1]

private theorem fillBuiltins_fillBuiltins (r : Registry) :
    r.fillBuiltins.fillBuiltins = r.fillBuiltins :=
  rfl

/-! ### All that is done to a table -/

/-- After any operations on an empty table: every profile is in its own place and can boot from its
device; they are listed in the strict order of their architectures; no operation ever changes what
is in a place; a profile is taken in if and only if its place is free and its device has a driver,
which puts it there and leaves the other places alone, and a refusal leaves the table as it is; the
builtin profiles fill all places, and there is nothing left to fill then; and the profile to launch
is the one in its place, if that is supported. -/
theorem performAll_keeps_first (operations : List Operation) :
    let r := empty.performAll operations
    (∀ a p, r.get? a = some p → p.architecture = a ∧ p.checkDevice = .ok ()) ∧
    (r.toList.Pairwise fun p q => p.architecture.position < q.architecture.position) ∧
    (∀ p, p ∈ r.toList ↔ r.get? p.architecture = some p) ∧
    (∀ later a p, r.get? a = some p → (r.performAll later).get? a = some p) ∧
    (∀ p r', r.takeIn p = (r', .ok ()) ↔
      r.get? p.architecture = none ∧ p.checkDevice = .ok () ∧ r'.get? p.architecture = some p ∧
        ∀ a ≠ p.architecture, r'.get? a = r.get? a) ∧
    (∀ p r' e, r.takeIn p = (r', .error e) ↔
      r' = r ∧ ((r.get? p.architecture).isSome ∧ e = .duplicate p.architecture ∨
        r.get? p.architecture = none ∧ p.checkDevice = .error e)) ∧
    (∀ p r', r.register p = .ok r' ↔ r.takeIn p = (r', .ok ())) ∧
    (∀ p e, r.register p = .error e ↔ r.takeIn p = (r, .error e)) ∧
    (∀ a, (r.fillBuiltins.get? a).isSome) ∧
    r.fillBuiltins.fillBuiltins = r.fillBuiltins ∧
    ∀ a p, (r.resolve a = .ok p ↔ p ∈ r.toList ∧ p.architecture = a ∧ p.isSupported = true) ∧
      (r.resolve a = .ok p → r.get? a = some p) := by
  intro r
  have hproper : r.IsProper := isProper_empty.performAll operations
  refine ⟨hproper, hproper.pairwise_toList, fun p => hproper.mem_toList, isKeptBy_performAll r,
    fun p r' => takeIn_eq_ok, fun p r' e => takeIn_eq_error, fun p r' => ?_,
    fun p e => register_eq_error, fun a => by simp, fillBuiltins_fillBuiltins r,
    fun a p => ⟨?_, fun h => (resolve_eq_ok.mp h).1⟩⟩
  · rw [register_eq_ok, takeIn_eq_ok, eq_put_iff, Profile.checkDevice_eq_ok]
  · rw [resolve_eq_ok, hproper.mem_toList]
    constructor
    · rintro ⟨hp, hsupported⟩
      obtain ⟨rfl, -⟩ := hproper a p hp
      exact ⟨hp, rfl, hsupported⟩
    · rintro ⟨hp, rfl, hsupported⟩
      exact ⟨hp, hsupported⟩

end Registry

end PxeLaunch

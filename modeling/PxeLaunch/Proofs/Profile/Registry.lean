import PxeLaunch.Profile.Folder
import PxeLaunch.Proofs.Result

/-!
The table of profiles holds valid profiles only, each in the place of its own architecture. This is
so when it is empty, it stays so with every profile that is taken from a file, and the builtin
profiles that fill the free places at the end are valid as well.
-/

set_option autoImplicit false

namespace PxeLaunch

theorem Profile.checkValid_eq_ok {p : Profile} {a : Architecture} {place : String} {u : Unit} :
    p.checkValid a place = .ok u ↔ p.isValid = true := by
  cases h : p.isValid <;> simp [Profile.checkValid, h]

theorem Profile.checkDevice_eq_ok {p : Profile} {u : Unit} :
    p.checkDevice = .ok u ↔ p.bootsFromNetwork = true := by
  cases h : p.bootsFromNetwork <;> simp [Profile.checkDevice, h]

theorem Profile.isError_eq_false_of_isValid {p : Profile} (h : p.isValid = true) {i : Issue}
    (hi : i ∈ p.issues) : i.isError = false := by
  have hnone : ∀ i ∈ p.issues, i.isError = false := by simpa [isValid] using h
  exact hnone i hi

theorem Profile.bootsFromNetwork_of_isValid {p : Profile} (h : p.isValid = true) :
    p.bootsFromNetwork = true := by
  by_contra hboots
  have hfalse := isError_eq_false_of_isValid h
    (i := .noDriver p.architecture p.firmware.kind p.device)
    (by simp [issues, machineIssues, hboots])
  simp [Issue.isError, Issue.severity] at hfalse

theorem Profile.architecture_builtin (a : Architecture) : (Profile.builtin a).architecture = a := by
  cases a <;> rfl

theorem Profile.isValid_builtin (a : Architecture) : (Profile.builtin a).isValid = true := by
  cases a <;> decide +kernel

namespace Registry

variable {r r' : Registry} {p : Profile}

/-! ### Places -/

@[simp] theorem get?_empty (a : Architecture) : empty.get? a = none := rfl

@[simp] theorem get?_put_self (r : Registry) (a : Architecture) (p : Profile) :
    (r.put a p).get? a = some p := by
  simp [get?, put]

theorem get?_put_of_ne (r : Registry) {a b : Architecture} (p : Profile) (h : b ≠ a) :
    (r.put a p).get? b = r.get? b := by
  simp [get?, put, h]

theorem eq_put_iff {a : Architecture} :
    r' = r.put a p ↔ r'.get? a = some p ∧ ∀ b ≠ a, r'.get? b = r.get? b := by
  constructor
  · rintro rfl
    exact ⟨get?_put_self r a p, fun b hb => get?_put_of_ne r p hb⟩
  · rintro ⟨hself, hothers⟩
    obtain ⟨slot⟩ := r'
    refine congrArg mk (funext fun b => ?_)
    by_cases hb : b = a
    · rw [if_pos hb, hb]
      exact hself
    · rw [if_neg hb]
      exact hothers b hb

@[simp] theorem get?_fillBuiltins (r : Registry) (a : Architecture) :
    r.fillBuiltins.get? a = some ((r.get? a).getD (Profile.builtin a)) := rfl

/-- A profile is taken in if its place is free and its firmware has a driver for its device. It is
in its place then, and the other places are as they were. -/
theorem takeIn_eq_ok :
    r.takeIn p = (r', .ok ()) ↔
      r.get? p.architecture = none ∧ p.checkDevice = .ok () ∧ r'.get? p.architecture = some p ∧
        ∀ a ≠ p.architecture, r'.get? a = r.get? a := by
  rw [← eq_put_iff]
  cases hget : r.get? p.architecture with
  | some q => simp [takeIn, contains, hget]
  | none => cases hdevice : p.checkDevice <;> simp [takeIn, contains, hget, hdevice, eq_comm]

/-- A profile is refused if its place is taken, and otherwise for its device. The table stays as it
is. -/
theorem takeIn_eq_error {e : ProfileError} :
    r.takeIn p = (r', .error e) ↔
      r' = r ∧ ((r.get? p.architecture).isSome ∧ e = .duplicate p.architecture ∨
        r.get? p.architecture = none ∧ p.checkDevice = .error e) := by
  cases hget : r.get? p.architecture with
  | some q => simp [takeIn, contains, hget, eq_comm]
  | none => cases hdevice : p.checkDevice <;> simp [takeIn, contains, hget, hdevice, eq_comm]

theorem register_eq_ok :
    r.register p = .ok r' ↔
      r.get? p.architecture = none ∧ p.bootsFromNetwork = true ∧ r' = r.put p.architecture p := by
  rw [eq_put_iff, ← Profile.checkDevice_eq_ok (u := ()), ← takeIn_eq_ok, register, map_eq_ok]
  constructor
  · rintro ⟨⟨⟩, hok, rfl⟩
    exact Prod.ext rfl hok
  · intro h
    exact ⟨(), by rw [h], by rw [h]⟩

theorem register_eq_error {e : ProfileError} :
    r.register p = .error e ↔ r.takeIn p = (r, .error e) := by
  rw [register, map_eq_error]
  constructor
  · intro herror
    have hsame : (r.takeIn p).1 = r := (takeIn_eq_error.mp (Prod.ext rfl herror)).1
    exact Prod.ext hsame herror
  · intro h
    rw [h]

theorem resolve_eq_ok {a : Architecture} :
    r.resolve a = .ok p ↔ r.get? a = some p ∧ p.isSupported = true := by
  cases h : r.get? a with
  | none => simp [resolve, h]
  | some q =>
    cases hs : q.support with
    | supported =>
      simp only [resolve, h, hs, Except.ok.injEq, Option.some.injEq]
      exact ⟨fun heq => ⟨heq, by simp [Profile.isSupported, ← heq, hs]⟩, And.left⟩
    | unsupported reason =>
      simp only [resolve, h, hs, Option.some.injEq, reduceCtorEq, false_iff]
      rintro ⟨rfl, hp⟩
      simp [Profile.isSupported, hs] at hp

/-! ### Valid profiles in their own places -/

/-- Every profile is valid and in the place of its own architecture. -/
def IsSound (r : Registry) : Prop :=
  ∀ a p, r.get? a = some p → p.architecture = a ∧ p.isValid = true

def IsFull (r : Registry) : Prop := ∀ a, ∃ p, r.get? a = some p

private theorem isSound_empty : empty.IsSound := by
  intro a p h
  simp at h

theorem IsSound.put (h : r.IsSound) (hp : p.isValid = true) :
    (r.put p.architecture p).IsSound := by
  intro a q hq
  by_cases ha : a = p.architecture
  · subst ha
    rw [get?_put_self, Option.some.injEq] at hq
    subst hq
    exact ⟨rfl, hp⟩
  · rw [get?_put_of_ne r p ha] at hq
    exact h a q hq

private theorem IsSound.register (h : r.IsSound) (hp : p.isValid = true)
    (hr : r.register p = .ok r') : r'.IsSound := by
  obtain ⟨-, -, rfl⟩ := register_eq_ok.mp hr
  exact h.put hp

private theorem IsSound.fillBuiltins (h : r.IsSound) : r.fillBuiltins.IsSound := by
  intro a p hp
  rw [get?_fillBuiltins, Option.some.injEq] at hp
  subst hp
  cases hget : r.get? a with
  | none => exact ⟨Profile.architecture_builtin a, Profile.isValid_builtin a⟩
  | some q => exact h a q hget

private theorem isFull_fillBuiltins (r : Registry) : r.fillBuiltins.IsFull :=
  fun a => ⟨_, get?_fillBuiltins r a⟩

theorem IsFull.put (h : r.IsFull) (a : Architecture) (p : Profile) : (r.put a p).IsFull := by
  intro b
  by_cases hb : b = a
  · exact ⟨p, hb ▸ get?_put_self r b p⟩
  · rw [get?_put_of_ne r p hb]
    exact h b

theorem map_architecture_toList (hs : r.IsSound) (hf : r.IsFull) :
    r.toList.map Profile.architecture = Architecture.all := by
  have hlist : ∀ l : List Architecture, (l.filterMap r.get?).map Profile.architecture = l := by
    intro l
    induction l with
    | nil => rfl
    | cons a rest ih =>
      obtain ⟨p, hp⟩ := hf a
      rw [List.filterMap_cons_some hp, List.map_cons, ih, (hs a p hp).1]
  exact hlist Architecture.all

end Registry

/-! ### The folder of profiles -/

namespace Profile

variable {files : Files} {r r' : Registry}

private theorem addSource_isSound {s : Source} (h : r.IsSound) (hr : addSource files r s = .ok r') :
    r'.IsSound := by
  obtain ⟨p, -, hp⟩ := bind_eq_ok.mp hr
  obtain ⟨_, hvalid, hregister⟩ := bind_eq_ok.mp hp
  exact h.register (checkValid_eq_ok.mp hvalid) hregister

private theorem addSources_isSound {ss : List Source} (h : r.IsSound)
    (hr : addSources files r ss = .ok r') : r'.IsSound := by
  induction ss generalizing r with
  | nil =>
    rw [addSources, Except.ok.injEq] at hr
    exact hr ▸ h
  | cons s rest ih =>
    obtain ⟨next, hnext, hrest⟩ := bind_eq_ok.mp hr
    exact ih (addSource_isSound h hnext) hrest

/-- The profiles of a folder and the builtin ones for what is left: a full table of valid ones. -/
theorem loadRegistry_isSound_isFull {dir : Path} (hr : loadRegistry files dir = .ok r) :
    r.IsSound ∧ r.IsFull := by
  obtain ⟨ss, -, hrest⟩ := bind_eq_ok.mp hr
  obtain ⟨own, hown, hfill⟩ := bind_eq_ok.mp hrest
  rw [pure_eq_ok] at hfill
  subst hfill
  exact ⟨(addSources_isSound Registry.isSound_empty hown).fillBuiltins,
    Registry.isFull_fillBuiltins own⟩

end Profile

end PxeLaunch

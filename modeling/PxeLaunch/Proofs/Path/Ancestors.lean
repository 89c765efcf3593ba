import Mathlib.Data.List.Infix
import PxeLaunch.Proofs.Path.Way

/-!
The ancestors of a path. Main statements: the ancestors of a path that starts at the root have the
beginnings of its steps, from all of them down to the root; and if the path never goes up, they lead
to its folder and to all folders around that, from the inside out.
-/

set_option autoImplicit false

namespace PxeLaunch.Path

variable {p d : Path}

private theorem ne_nil_of_isAbsolute (habsolute : p.isAbsolute = true) : p.steps ≠ [] := by
  rw [steps_eq, rootOf, if_pos habsolute]
  simp

private theorem parent?_of_lastPart?_eq_none (habsolute : p.isAbsolute = true)
    (hlast : p.lastPart? = none) : p.parent? = none ∧ p.steps = [.root] := by
  have hdrop : p.parts.reverse.dropWhile isIgnored = [] := List.head?_eq_none_iff.mp hlast
  have hignored : ∀ part ∈ p.parts, isIgnored part = true := by
    simpa using List.dropWhile_eq_nil_iff.mp hdrop
  constructor
  · rw [parent?, hdrop]
    rcases front_cases p with ⟨-, hrelative⟩ | ⟨rest, -, hfront, -⟩ | ⟨rest, -, -, hrelative, -⟩
    · rw [habsolute] at hrelative
      cases hrelative
    · rw [hfront]
      rfl
    · rw [habsolute] at hrelative
      cases hrelative
  · rw [steps_eq_parts, rootOf, if_pos habsolute, namesOf_of_forall_isIgnored hignored]
    rfl

private theorem map_steps_ancestorsFrom {fuel : Nat} (habsolute : p.isAbsolute = true)
    (hfuel : p.steps.length ≤ fuel + 1) :
    (p.ancestorsFrom fuel).map steps = p.steps.inits.tail.reverse := by
  induction fuel generalizing p with
  | zero =>
    obtain ⟨c, hc⟩ : ∃ c, p.steps = [c] := by
      have hpos := List.length_pos_iff.mpr (ne_nil_of_isAbsolute habsolute)
      exact List.length_eq_one_iff.mp (by omega)
    simp [ancestorsFrom, hc]
  | succ fuel ih =>
    rw [ancestorsFrom]
    cases hlast : p.lastPart? with
    | none =>
      obtain ⟨hparent, hsteps⟩ := parent?_of_lastPart?_eq_none habsolute hlast
      simp [hparent, hsteps]
    | some part =>
      obtain ⟨q, hparent, hq, hsteps⟩ := exists_parent?_of_lastPart? hlast
      have hlength : q.steps.length ≤ fuel + 1 := by
        rw [hsteps, List.length_append, List.length_singleton] at hfuel
        omega
      obtain ⟨first, more, hinits⟩ : ∃ first more, q.steps.inits = first :: more :=
        List.exists_cons_of_ne_nil (by cases q.steps <;> simp)
      simp only [hparent, List.map_cons, ih (hq.trans habsolute) hlength]
      rw [hsteps, List.inits_append, hinits]
      simp

private theorem map_steps_ancestors (habsolute : p.isAbsolute = true) :
    p.ancestors.map steps = p.steps.inits.tail.reverse :=
  map_steps_ancestorsFrom habsolute p.length_steps_le

theorem exists_ancestors_eq_cons (p : Path) : ∃ around, p.ancestors = p :: around := by
  rw [ancestors]
  cases p.bytes.length with
  | zero => exact ⟨[], rfl⟩
  | succ fuel =>
    rw [ancestorsFrom]
    split
    · exact ⟨_, rfl⟩
    · exact ⟨[], rfl⟩

theorem isPrefix_of_mem_ancestors (habsolute : p.isAbsolute = true) (hd : d ∈ p.ancestors) :
    d.steps <+: p.steps := by
  have hmem : d.steps ∈ p.steps.inits.tail.reverse :=
    map_steps_ancestors habsolute ▸ List.mem_map_of_mem hd
  exact (List.mem_inits _ _).mp (List.mem_of_mem_tail (List.mem_reverse.mp hmem))

theorem pairwise_ancestors (habsolute : p.isAbsolute = true) :
    p.ancestors.Pairwise fun inner outer =>
      outer.steps <+: inner.steps ∧ outer.steps.length < inner.steps.length := by
  have hinits (cs : List Component) :
      cs.inits.Pairwise fun outer inner => outer <+: inner ∧ outer.length < inner.length := by
    induction cs with
    | nil => simp
    | cons c cs ih =>
      rw [List.inits_cons, List.pairwise_cons, List.pairwise_map]
      exact ⟨by simp, ih.imp fun h => by simpa using h⟩
  have hsteps : (p.ancestors.map steps).Pairwise fun inner outer =>
      outer <+: inner ∧ outer.length < inner.length := by
    rw [map_steps_ancestors habsolute, List.pairwise_reverse]
    exact (hinits p.steps).tail
  exact List.pairwise_map.mp hsteps

/-! ### Paths that never go up -/

theorem not_mem_steps (hup : .up ∉ p.components) : .up ∉ p.steps := fun hmem =>
  hup (List.mem_filter.mp hmem).1

private theorem exists_names (habsolute : p.isAbsolute = true) (hup : .up ∉ p.components) :
    ∃ names : List Bytes, p.steps = .root :: names.map .name := by
  have hnames (parts : List Bytes) (h : .up ∉ namesOf parts) :
      ∃ names : List Bytes, namesOf parts = names.map .name := by
    refine ⟨parts.filter (!isIgnored ·), List.map_congr_left fun part hpart => ?_⟩
    refine if_neg fun heq => h (List.mem_map.mpr ⟨part, hpart, ?_⟩)
    exact if_pos heq
  have hsteps := not_mem_steps hup
  rw [steps_eq, rootOf, if_pos habsolute] at hsteps ⊢
  obtain ⟨names, hnames⟩ := hnames (split p.bytes) fun hmem => hsteps (by simp [hmem])
  exact ⟨names, by rw [hnames]; rfl⟩

theorem isStraight_of_not_mem (hup : .up ∉ p.steps) : p.IsStraight :=
  List.pairwise_of_forall_mem_list fun _ _ _ hmem _ heq => hup (heq ▸ hmem)

private theorem follow_names (key : Key) (names : List Bytes) :
    follow key (names.map Component.name) = key ++ names := by
  induction names generalizing key with
  | nil => simp [follow]
  | cons name names ih => simp [follow, ih]

/-- The ancestors of a path that never goes up lead to its folder and to those around it. -/
theorem map_follow_ancestors (key : Key) (habsolute : p.isAbsolute = true)
    (hup : .up ∉ p.components) :
    (p.ancestors.map fun d => follow key d.steps) = (follow key p.steps).inits.reverse := by
  have hroot (cs : List Component) : follow key (.root :: cs) = follow [] cs := rfl
  have hinits (names : List Bytes) :
      (names.map Component.name).inits = names.inits.map (List.map Component.name) := by
    induction names with
    | nil => simp
    | cons name names ih => simp [ih, Function.comp_def]
  obtain ⟨names, hnames⟩ := exists_names habsolute hup
  calc
    (p.ancestors.map fun d => follow key d.steps)
      = (p.ancestors.map steps).map (follow key ·) := by rw [List.map_map]; rfl
    _ = (names.inits.map fun front => follow [] (front.map Component.name)).reverse := by
      rw [map_steps_ancestors habsolute, hnames, List.inits_cons, List.tail_cons, hinits,
        List.map_reverse, List.map_map, List.map_map]
      rfl
    _ = (follow key p.steps).inits.reverse := by
      simp [hnames, hroot, follow_names]

end PxeLaunch.Path

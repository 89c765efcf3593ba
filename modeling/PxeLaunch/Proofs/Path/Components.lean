import PxeLaunch.Proofs.Path.Way

/-!
The components of joined paths. Main statements: the components of a path begin those of every
relative path below it, and a path has the components of its parent joined with its last part,
whatever stands between the two and after them in its spelling.
-/

set_option autoImplicit false

namespace PxeLaunch.Path

variable {p q : Path} {part : Bytes}

private theorem components_eq (p : Path) :
    p.components = (if p.front = [dot] then [.current] else []) ++ p.steps := by
  rw [components, steps_eq_parts]
  rcases front_cases p with ⟨hfront, habs⟩ | ⟨rest, -, hfront, habs⟩ | ⟨rest, -, hfront, habs, -⟩
  · simp [frontComponents, hfront, rootOf, habs, namesOf]
  · simp [frontComponents, hfront, rootOf, habs, namesOf, dot, Bytes.slash]
  · simp [frontComponents, hfront, rootOf, habs, namesOf, dot, Bytes.slash]

/-! ### Below a path -/

private theorem front_append_slash {a : Bytes} (ha : a ≠ []) (b : Bytes) :
    front ⟨a ++ Bytes.slash :: b⟩ = front ⟨a⟩ := by
  cases a with
  | nil => exact absurd rfl ha
  | cons x a =>
    cases a with
    | nil => simp [front]
    | cons y a => rfl

private theorem front_join (hp : p.bytes ≠ []) (hq : q.isAbsolute = false) :
    (p.join q).front = p.front := by
  have hempty : p.bytes.isEmpty = false := by simpa using hp
  rw [join, if_neg (by simp [hq]), hempty, Bool.false_or]
  split
  · next hends =>
    obtain ⟨start, hstart⟩ := List.getLast?_eq_some_iff.mp (beq_iff_eq.mp hends)
    obtain ⟨bytes⟩ := p
    obtain rfl : bytes = start ++ [Bytes.slash] := hstart
    cases start with
    | nil => rfl
    | cons b start =>
      have hne : b :: start ≠ [] := List.cons_ne_nil b start
      rw [List.append_assoc, List.singleton_append, front_append_slash hne,
        front_append_slash hne]
  · exact front_append_slash hp q.bytes

theorem components_join (hp : p.bytes ≠ []) (hq : q.isAbsolute = false) :
    (p.join q).components = p.components ++ q.steps := by
  have hsteps : (p.join q).steps = p.steps ++ q.steps := by
    rw [steps_join, if_neg (by simp [hq])]
  rw [components_eq, components_eq p, front_join hp hq, hsteps, List.append_assoc]

theorem startsWith_iff : p.startsWith q = true ↔ q.components <+: p.components :=
  List.isPrefixOf_iff_prefix

theorem startsWith_trans {r : Path} (hpq : p.startsWith q = true) (hqr : q.startsWith r = true) :
    p.startsWith r = true :=
  startsWith_iff.mpr ((startsWith_iff.mp hqr).trans (startsWith_iff.mp hpq))

theorem startsWith_join (p : Path) (hq : q.isAbsolute = false) :
    (p.join q).startsWith p = true := by
  refine startsWith_iff.mpr ?_
  by_cases hp : p.bytes = []
  · obtain ⟨bytes⟩ := p
    obtain rfl : bytes = [] := hp
    exact List.nil_prefix
  · rw [components_join hp hq]
    exact List.prefix_append _ _

/-! ### The parent and the last part -/

theorem lastPart?_of_fileName? (h : p.fileName? = some part) :
    p.lastPart? = some part ∧ part ≠ [dot, dot] := by
  unfold fileName? at h
  split at h
  · next last hlast =>
    split at h
    · cases h
    · next hup =>
      obtain rfl := Option.some.inj h
      exact ⟨hlast, by simpa using hup⟩
  · cases h

theorem not_mem_of_lastPart? (h : p.lastPart? = some part) : Bytes.slash ∉ part := by
  obtain ⟨front, between, after, -, hparts, -⟩ := exists_parts_of_lastPart? h
  have hmem : part ∈ p.parts := by simp [hparts]
  exact not_mem_of_mem_split hmem

theorem isIgnored_of_lastPart? (h : p.lastPart? = some part) : isIgnored part = false := by
  obtain ⟨-, -, -, -, -, -, -, hpart, -⟩ := exists_parts_of_lastPart? h
  exact hpart

theorem components_of_lastPart? (h : p.lastPart? = some part) :
    components ⟨part⟩ = [componentOf part] := by
  have hslash : Bytes.slash ∉ part := not_mem_of_lastPart? h
  have hpart : isIgnored part = false := isIgnored_of_lastPart? h
  have hfront : front ⟨part⟩ ≠ [dot] := by
    intro hdot
    rcases front_cases ⟨part⟩ with ⟨hnil, -⟩ | ⟨rest, -, hroot, -⟩ | ⟨rest, hbytes, -, -, hrest⟩
    · rw [hnil] at hdot
      cases hdot
    · rw [hroot] at hdot
      cases hdot
    · obtain rfl : part = dot :: rest := hbytes
      rcases hrest with rfl | ⟨more, rfl⟩
      · cases hpart
      · simp at hslash
  rw [components_eq, if_neg hfront, (steps_of_lastPart? h).2]
  rfl

private theorem front_of_parent? (h : p.lastPart? = some part) (hparent : p.parent? = some q) :
    q.front = p.front := by
  obtain ⟨front, between, after, hspelled, hparts, -, -, -, hlast⟩ := exists_parts_of_lastPart? h
  obtain rfl : _ = q := Option.some.inj (hspelled.symm.trans hparent)
  rcases List.eq_nil_or_concat front with rfl | ⟨start, before, rfl⟩
  · rw [spell_nil, List.append_nil]
    rcases front_cases p with ⟨hfront, -⟩ | ⟨-, -, hfront, -⟩ | ⟨-, -, hfront, -⟩ <;>
      rw [hfront] <;> rfl
  · rw [List.concat_eq_append] at hparts hlast ⊢
    have hbefore : isIgnored before = false := hlast before (by simp)
    obtain ⟨hbytes, hends⟩ := bytes_eq_of_parts_eq hparts (by simp) hbefore
    have hne : p.front ++ spell (start ++ [before]) ≠ [] := by
      intro hempty
      rw [hempty] at hends
      obtain rfl : [] = before := by simpa [split] using hends
      cases hbefore
    calc
      front ⟨p.front ++ spell (start ++ [before])⟩
        = front ⟨p.bytes⟩ := by rw [hbytes, front_append_slash hne]
      _ = p.front := rfl

theorem components_eq_of_parent? (h : p.lastPart? = some part) (hparent : p.parent? = some q) :
    p.components = q.components ++ [componentOf part] := by
  obtain ⟨r, hr, -, hsteps⟩ := exists_parent?_of_lastPart? h
  obtain rfl : r = q := Option.some.inj (hr.symm.trans hparent)
  rw [components_eq, components_eq r, front_of_parent? h hparent, hsteps, List.append_assoc]

/-- A path is its parent joined with its last part. -/
theorem components_parent_join (h : p.lastPart? = some part) (hparent : p.parent? = some q) :
    (q.join ⟨part⟩).components = p.components := by
  obtain ⟨hrelative, hsteps⟩ := steps_of_lastPart? h
  have hcomponents := components_eq_of_parent? h hparent
  by_cases hq : q.bytes = []
  · obtain ⟨bytes⟩ := q
    obtain rfl : bytes = [] := hq
    have hjoin : join ⟨[]⟩ ⟨part⟩ = ⟨part⟩ := by simp [join, hrelative]
    rw [hjoin, components_of_lastPart? h, hcomponents]
    rfl
  · rw [components_join hq hrelative, hsteps, hcomponents]

end PxeLaunch.Path

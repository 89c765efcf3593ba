import PxeLaunch.Proofs.Path.Steps

/-!
The way along a path: the keys that its steps lead to, one after another. Main statements: the way
along a path whose last part counts is the way along its parent and one key more; below a path, a
name is one step more.
-/

set_option autoImplicit false

namespace PxeLaunch.Path

/-! ### Keys on the way -/

/-- The keys that steps lead to from another one. -/
def way (key : Key) : List Component → List Key
  | [] => []
  | c :: rest => follow key [c] :: way (follow key [c]) rest

variable {p : Path} {key : Key} {last : Bytes}

private theorem follow_cons (key : Key) (c : Component) (rest : List Component) :
    follow key (c :: rest) = follow (follow key [c]) rest := by
  cases c <;> rfl

theorem follow_append (key : Key) (cs more : List Component) :
    follow key (cs ++ more) = follow (follow key cs) more := by
  induction cs generalizing key with
  | nil => rfl
  | cons c cs ih => rw [List.cons_append, follow_cons, ih, ← follow_cons]

theorem way_append (key : Key) (cs more : List Component) :
    way key (cs ++ more) = way key cs ++ way (follow key cs) more := by
  induction cs generalizing key with
  | nil => rfl
  | cons c cs ih => rw [List.cons_append, way, way, ih, List.cons_append, ← follow_cons]

theorem way_concat (key : Key) (cs : List Component) (c : Component) :
    way key (cs ++ [c]) = way key cs ++ [follow key (cs ++ [c])] := by
  rw [way_append, follow_append]
  rfl

theorem isPrefix_of_mem_way (key : Key) {cs : List Component}
    (h : ∀ c ∈ cs, ∃ part, c = .name part) :
    key <+: follow key cs ∧ ∀ k ∈ way key cs, k <+: follow key cs := by
  induction cs generalizing key with
  | nil => exact ⟨List.prefix_rfl, by simp [way]⟩
  | cons c cs ih =>
    obtain ⟨⟨part, rfl⟩, hcs⟩ := List.forall_mem_cons.mp h
    obtain ⟨hfirst, hway⟩ := ih (key ++ [part]) hcs
    exact ⟨(List.prefix_append key [part]).trans hfirst, List.forall_mem_cons.mpr ⟨hfirst, hway⟩⟩

/-! ### The last part of a path -/

theorem split_cases (p : Path) :
    split p.bytes = p.parts ∨ split p.bytes = [] :: p.parts ∨
      ∃ others, split p.bytes = [dot] :: others ∧ p.parts = [] :: others := by
  rcases front_cases p with ⟨hfront, -⟩ | ⟨rest, hbytes, hfront, -⟩ | ⟨rest, hbytes, hfront, -, h⟩
  · exact .inl (by rw [parts, hfront]; rfl)
  · exact .inr (.inl (by rw [parts, hfront, hbytes, split_slash_cons]; rfl))
  · rcases h with rfl | ⟨more, rfl⟩
    · exact .inr (.inr ⟨[], by rw [hbytes]; rfl, by rw [parts, hfront, hbytes]; rfl⟩)
    · refine .inr (.inr ⟨split more, ?_, ?_⟩)
      · rw [hbytes]
        exact split_append_slash [dot] more
      · rw [parts, hfront, hbytes]
        exact split_slash_cons more

theorem lastPart?_of_getLast? (h : (split p.bytes).getLast? = some last)
    (hlast : isIgnored last = false) : p.lastPart? = some last := by
  have hparts : p.parts.getLast? = some last := by
    rcases split_cases p with hsplit | hsplit | ⟨others, hsplit, hparts⟩
    · rw [← hsplit, h]
    · obtain ⟨part, more, hcons⟩ := exists_split (p.bytes.drop p.front.length)
      rw [hsplit, parts, hcons, List.getLast?_cons_cons] at h
      rw [parts, hcons, h]
    · rw [hsplit] at h
      cases others with
      | nil =>
        obtain rfl : [dot] = last := by simpa using h
        cases hlast
      | cons part more =>
        rw [List.getLast?_cons_cons] at h
        rw [hparts, List.getLast?_cons_cons, h]
  obtain ⟨start, hstart⟩ := List.getLast?_eq_some_iff.mp hparts
  rw [lastPart?, hstart, List.reverse_append, List.reverse_singleton, List.singleton_append,
    List.dropWhile_cons_of_neg (by simp [hlast])]
  rfl

theorem bytes_eq_of_parts_eq {start more : List Bytes} {before : Bytes}
    (hparts : p.parts = start ++ [before] ++ more) (hmore : more ≠ [])
    (hbefore : isIgnored before = false) :
    p.bytes = p.front ++ spell (start ++ [before]) ++ Bytes.slash :: spell more ∧
      (split (p.front ++ spell (start ++ [before]))).getLast? = some before := by
  have hbytes : p.bytes = p.front ++ spell (start ++ [before]) ++ Bytes.slash :: spell more := by
    rw [List.append_assoc, ← spell_append (by simp) hmore, ← hparts, front_append_spell_parts]
  have hclean : ∀ part ∈ more, Bytes.slash ∉ part := fun part hmem =>
    not_mem_of_mem_split (show part ∈ p.parts from hparts ▸ List.mem_append_right _ hmem)
  have hsplit := congrArg split hbytes
  rw [split_append_slash, split_spell hmore hclean] at hsplit
  refine ⟨hbytes, ?_⟩
  rcases split_cases p with heq | heq | ⟨others, heq, hothers⟩
  · rw [heq, hparts] at hsplit
    rw [← List.append_cancel_right hsplit, List.getLast?_concat]
  · rw [heq, hparts, ← List.cons_append] at hsplit
    rw [← List.append_cancel_right hsplit, ← List.cons_append, List.getLast?_concat]
  · -- The other path begins with the same dot, and it has more parts, as a dot does not count.
    rw [hparts] at hothers
    cases start with
    | nil =>
      obtain ⟨rfl, -⟩ := List.cons.inj hothers
      cases hbefore
    | cons part start =>
      have hrest : start ++ [before] ++ more = others := (List.cons.inj hothers).2
      rw [heq, ← hrest, ← List.cons_append] at hsplit
      rw [← List.append_cancel_right hsplit, ← List.cons_append, List.getLast?_concat]

/-- A path whose last part counts has a parent, which has one step less. Unless it has none but the
root, the parent ends before a slash, and its own last part counts. -/
theorem exists_parent?_of_getLast? (h : (split p.bytes).getLast? = some last)
    (hlast : isIgnored last = false) :
    ∃ q, p.parent? = some q ∧ q.isAbsolute = p.isAbsolute ∧
      p.steps = q.steps ++ [componentOf last] ∧
      (q.steps = q.rootOf ∨ q.bytes ≠ [] ∧ (∃ rest, p.bytes = q.bytes ++ Bytes.slash :: rest) ∧
        ∃ before, (split q.bytes).getLast? = some before ∧ isIgnored before = false) := by
  have hpart := lastPart?_of_getLast? h hlast
  obtain ⟨q, hparent, habsolute, hsteps⟩ := exists_parent?_of_lastPart? hpart
  obtain ⟨front, between, after, hspelled, hparts, -, -, -, hcounts⟩ :=
    exists_parts_of_lastPart? hpart
  obtain rfl := Option.some.inj (hparent.symm.trans hspelled)
  refine ⟨_, hparent, habsolute, hsteps, ?_⟩
  rcases List.eq_nil_or_concat front with rfl | ⟨start, before, rfl⟩
  · refine .inl ?_
    rw [spell_nil, List.append_nil, steps_front, rootOf, rootOf, isAbsolute_front]
  · rw [List.concat_eq_append] at hparts hcounts ⊢
    have hbefore : isIgnored before = false := hcounts before (by simp)
    obtain ⟨hbytes, hends⟩ := bytes_eq_of_parts_eq hparts (by simp) hbefore
    have hne : p.front ++ spell (start ++ [before]) ≠ [] := by
      intro hempty
      rw [hempty] at hends
      obtain rfl : [] = before := by simpa [split] using hends
      cases hbefore
    exact .inr ⟨hne, ⟨_, hbytes⟩, before, hends, hbefore⟩

theorem length_steps_le (p : Path) : p.steps.length ≤ p.bytes.length + 1 := by
  have hsplit (a : Bytes) : (split a).length ≤ a.length + 1 := by
    induction a with
    | nil => rfl
    | cons b a ih =>
      obtain ⟨part, parts, hparts⟩ := exists_split a
      by_cases hb : b = Bytes.slash
      · rw [hb, split_slash_cons]
        simpa using ih
      · rw [hparts] at ih
        rw [split_cons_of_ne hb hparts]
        simp only [List.length_cons] at ih ⊢
        omega
  have hnames (parts : List Bytes) : (namesOf parts).length ≤ parts.length := by
    rw [namesOf, List.length_map]
    exact List.length_filter_le _ _
  rw [steps_eq, List.length_append]
  rcases front_cases p with ⟨-, habsolute⟩ | ⟨rest, hbytes, -, habsolute⟩ | ⟨-, -, -, habsolute, -⟩
  · have hlength := (hnames (split p.bytes)).trans (hsplit p.bytes)
    simpa [rootOf, habsolute] using hlength
  · have hlength := (hnames (split rest)).trans (hsplit rest)
    rw [hbytes, split_slash_cons, namesOf_cons_of_isIgnored rfl]
    simp only [rootOf, habsolute, if_true, List.length_cons, List.length_nil]
    omega
  · have hlength := (hnames (split p.bytes)).trans (hsplit p.bytes)
    simpa [rootOf, habsolute] using hlength

/-! ### Names below a path -/

structure IsName (part : Bytes) : Prop where
  counts : isIgnored part = false
  not_up : part ≠ [dot, dot]
  one_part : Bytes.slash ∉ part
  clean : 0 ∉ part

instance (part : Bytes) : Decidable (IsName part) :=
  decidable_of_iff
    (isIgnored part = false ∧ part ≠ [dot, dot] ∧ Bytes.slash ∉ part ∧ 0 ∉ part)
    ⟨fun ⟨counts, not_up, one_part, clean⟩ => ⟨counts, not_up, one_part, clean⟩,
      fun ⟨counts, not_up, one_part, clean⟩ => ⟨counts, not_up, one_part, clean⟩⟩

/-- Whether a path goes up only before it goes down. -/
def IsStraight (p : Path) : Prop :=
  p.steps.Pairwise fun c d => (∃ part, c = .name part) → d ≠ .up

variable {part : Bytes}

theorem IsName.isAbsolute_eq_false (h : IsName part) : isAbsolute ⟨part⟩ = false := by
  cases part with
  | nil => rfl
  | cons b rest =>
    have hb : b ≠ Bytes.slash := by
      rintro rfl
      exact h.one_part List.mem_cons_self
    simpa [isAbsolute] using hb

theorem join_cases (p : Path) :
    p.bytes = [] ∧ (∀ part, IsName part → (p.join ⟨part⟩).bytes = part) ∨
      ∃ start, (p.bytes = start ∨ p.bytes = start ++ [Bytes.slash]) ∧
        ∀ part, IsName part → (p.join ⟨part⟩).bytes = start ++ Bytes.slash :: part := by
  by_cases hempty : p.bytes = []
  · refine .inl ⟨hempty, fun part hpart => ?_⟩
    simp [join, hpart.isAbsolute_eq_false, hempty]
  by_cases hends : p.bytes.getLast? = some Bytes.slash
  · obtain ⟨start, hstart⟩ := List.getLast?_eq_some_iff.mp hends
    refine .inr ⟨start, .inr hstart, fun part hpart => ?_⟩
    simp [join, hpart.isAbsolute_eq_false, hstart]
  · refine .inr ⟨p.bytes, .inl rfl, fun part hpart => ?_⟩
    simp [join, hpart.isAbsolute_eq_false, hempty, hends]

theorem getLast?_split_join (p : Path) (h : IsName part) :
    (split (p.join ⟨part⟩).bytes).getLast? = some part := by
  rcases join_cases p with ⟨-, hjoin⟩ | ⟨start, -, hjoin⟩
  · rw [hjoin part h, split_of_not_mem h.one_part]
    rfl
  · rw [hjoin part h, split_append_slash, split_of_not_mem h.one_part, List.getLast?_concat]

theorem steps_join_name (p : Path) (h : IsName part) :
    (p.join ⟨part⟩).steps = p.steps ++ [componentOf part] := by
  rw [steps_join, if_neg (by simp [h.isAbsolute_eq_false]), steps_eq ⟨part⟩,
    rootOf_eq_nil h.isAbsolute_eq_false, split_of_not_mem h.one_part, List.nil_append,
    namesOf_singleton h.counts]

theorem IsName.componentOf_eq (h : IsName part) : componentOf part = .name part :=
  if_neg (by simpa using h.not_up)

theorem way_join_name (key : Key) (p : Path) (h : IsName part) :
    way key (p.join ⟨part⟩).steps = way key p.steps ++ [follow key p.steps ++ [part]] := by
  rw [steps_join_name p h, way_concat, follow_append, h.componentOf_eq]
  rfl

end PxeLaunch.Path

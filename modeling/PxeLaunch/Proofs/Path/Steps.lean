import Mathlib.Data.List.TakeWhile
import PxeLaunch.Host.Files

/-!
Where paths lead. The steps of a path are its components but for a dot at its front. Main
statements: a path that can be followed leads where its steps do; joining two paths joins their
steps unless the second one is absolute; and the steps of a path are those of its parent with its
last component after them.
-/

set_option autoImplicit false

namespace PxeLaunch.Path

/-! ### Parts between slashes -/

section

variable {a b : Bytes} {part : Bytes} {parts : List Bytes}

theorem split_slash_cons (a : Bytes) : split (Bytes.slash :: a) = [] :: split a := by
  rw [split, if_pos rfl]

theorem exists_split (a : Bytes) : ∃ part parts, split a = part :: parts := by
  fun_cases split a with
  | case1 => exact ⟨[], [], rfl⟩
  | case2 => exact ⟨_, _, rfl⟩
  | case3 => exact ⟨_, _, rfl⟩
  | case4 => exact ⟨_, _, rfl⟩

theorem split_cons_of_ne {b : UInt8} (hb : b ≠ Bytes.slash) (h : split a = part :: parts) :
    split (b :: a) = (b :: part) :: parts := by
  rw [split, if_neg hb, h]

theorem split_append_slash (a b : Bytes) :
    split (a ++ Bytes.slash :: b) = split a ++ split b := by
  induction a with
  | nil => exact split_slash_cons b
  | cons c a ih =>
    by_cases hc : c = Bytes.slash
    · rw [hc, List.cons_append, split_slash_cons, ih, split_slash_cons]
      rfl
    · obtain ⟨part, parts, hsplit⟩ := exists_split a
      rw [hsplit] at ih
      rw [List.cons_append, split_cons_of_ne hc ih, split_cons_of_ne hc hsplit]
      rfl

theorem split_of_not_mem (h : Bytes.slash ∉ a) : split a = [a] := by
  induction a with
  | nil => rfl
  | cons b a ih =>
    obtain ⟨hb, ha⟩ := not_or.mp (mt List.mem_cons.mpr h)
    exact split_cons_of_ne (Ne.symm hb) (ih ha)

theorem not_mem_of_mem_split (h : part ∈ split a) : Bytes.slash ∉ part := by
  induction a generalizing part with
  | nil => simp_all [split]
  | cons b a ih =>
    by_cases hb : b = Bytes.slash
    · rw [hb, split_slash_cons] at h
      rcases List.mem_cons.mp h with rfl | h
      · simp
      · exact ih h
    · obtain ⟨first, more, hsplit⟩ := exists_split a
      rw [split_cons_of_ne hb hsplit] at h
      rw [hsplit] at ih
      rcases List.mem_cons.mp h with rfl | h
      · rintro (_ | ⟨_, hmem⟩)
        · exact hb rfl
        · exact ih List.mem_cons_self hmem
      · exact ih (List.mem_cons_of_mem _ h)

@[simp] theorem spell_nil : spell [] = [] := rfl

@[simp] theorem spell_singleton (part : Bytes) : spell [part] = part :=
  List.intercalate_singleton

private theorem spell_cons (part : Bytes) (h : parts ≠ []) :
    spell (part :: parts) = part ++ Bytes.slash :: spell parts := by
  cases parts with
  | nil => exact absurd rfl h
  | cons next rest => simp [spell, List.intercalate_cons_cons]

theorem spell_append {more : List Bytes} (hparts : parts ≠ []) (hmore : more ≠ []) :
    spell (parts ++ more) = spell parts ++ Bytes.slash :: spell more := by
  induction parts with
  | nil => exact absurd rfl hparts
  | cons part parts ih =>
    cases parts with
    | nil =>
      rw [List.singleton_append, spell_cons part hmore, spell_singleton]
    | cons next rest =>
      rw [List.cons_append, spell_cons part (by simp), ih (by simp), spell_cons part (by simp),
        List.append_assoc]
      rfl

theorem split_spell (hne : parts ≠ []) (h : ∀ part ∈ parts, Bytes.slash ∉ part) :
    split (spell parts) = parts := by
  induction parts with
  | nil => exact absurd rfl hne
  | cons part parts ih =>
    obtain ⟨hpart, hparts⟩ := List.forall_mem_cons.mp h
    cases parts with
    | nil => rw [spell_singleton, split_of_not_mem hpart]
    | cons next rest =>
      rw [spell_cons part (by simp), split_append_slash, split_of_not_mem hpart,
        ih (by simp) hparts]
      rfl

private theorem spell_split (a : Bytes) : spell (split a) = a := by
  induction a with
  | nil => rfl
  | cons b a ih =>
    obtain ⟨part, parts, hsplit⟩ := exists_split a
    by_cases hb : b = Bytes.slash
    · rw [hb, split_slash_cons, spell_cons [] (by simp [hsplit]), ih]
      rfl
    · rw [split_cons_of_ne hb hsplit]
      rw [hsplit] at ih
      cases parts with
      | nil => simpa using ih
      | cons next rest =>
        rw [spell_cons part (by simp)] at ih
        rw [spell_cons _ (by simp), List.cons_append, ih]

end

/-! ### Steps -/

/-- The components of a path that lead somewhere. -/
def steps (p : Path) : List Component := p.components.filter (· ≠ .current)

def namesOf (parts : List Bytes) : List Component :=
  (parts.filter (!isIgnored ·)).map componentOf

variable {p q : Path} {part : Bytes} {parts : List Bytes}

theorem namesOf_append (parts more : List Bytes) :
    namesOf (parts ++ more) = namesOf parts ++ namesOf more := by
  simp [namesOf]

theorem namesOf_cons_of_isIgnored (h : isIgnored part = true) (parts : List Bytes) :
    namesOf (part :: parts) = namesOf parts := by
  simp [namesOf, h]

theorem namesOf_cons_of_counts (h : ¬isIgnored part = true) (parts : List Bytes) :
    namesOf (part :: parts) = componentOf part :: namesOf parts := by
  simp [namesOf, h]

theorem namesOf_singleton (h : isIgnored part = false) : namesOf [part] = [componentOf part] := by
  simp [namesOf, h]

theorem namesOf_of_forall_isIgnored (h : ∀ part ∈ parts, isIgnored part = true) :
    namesOf parts = [] := by
  simpa [namesOf] using h

private theorem componentOf_ne_current (part : Bytes) : componentOf part ≠ .current := by
  rw [componentOf]
  split <;> simp

private theorem filter_namesOf (parts : List Bytes) :
    (namesOf parts).filter (· ≠ .current) = namesOf parts := by
  refine List.filter_eq_self.mpr fun c hc => ?_
  obtain ⟨part, -, rfl⟩ := List.mem_map.mp hc
  simpa using componentOf_ne_current part

def rootOf (p : Path) : List Component := if p.isAbsolute then [.root] else []

theorem rootOf_eq_nil (h : p.isAbsolute = false) : p.rootOf = [] := by
  simp [rootOf, h]

theorem front_cases (p : Path) :
    p.front = [] ∧ p.isAbsolute = false ∨
      (∃ rest, p.bytes = Bytes.slash :: rest ∧ p.front = [Bytes.slash] ∧ p.isAbsolute = true) ∨
      ∃ rest, p.bytes = dot :: rest ∧ p.front = [dot] ∧ p.isAbsolute = false ∧
        (rest = [] ∨ ∃ more, rest = Bytes.slash :: more) := by
  obtain ⟨bytes⟩ := p
  cases bytes with
  | nil => exact .inl ⟨rfl, rfl⟩
  | cons b rest =>
    by_cases hslash : b = Bytes.slash
    · exact .inr (.inl ⟨rest, by simp [hslash], by simp [front, hslash],
        by simp [isAbsolute, hslash]⟩)
    have hrelative : isAbsolute ⟨b :: rest⟩ = false := by simp [isAbsolute, hslash]
    by_cases hdot : (b = dot && (rest.isEmpty || rest.head? == some Bytes.slash)) = true
    · have hfront : front ⟨b :: rest⟩ = [b] := by
        simp only [front, if_neg hslash, if_pos hdot]
      obtain ⟨hb, hrest⟩ := Bool.and_eq_true_iff.mp hdot
      obtain rfl := of_decide_eq_true hb
      refine .inr (.inr ⟨rest, rfl, hfront, hrelative, ?_⟩)
      cases rest with
      | nil => exact .inl rfl
      | cons c more => exact .inr ⟨more, by simpa using hrest⟩
    · exact .inl ⟨by simp only [front, if_neg hslash, if_neg hdot], hrelative⟩

theorem steps_eq_parts (p : Path) : p.steps = p.rootOf ++ namesOf p.parts := by
  rw [steps, components, List.filter_append]
  congr 1
  · rcases front_cases p with ⟨hfront, habs⟩ | ⟨rest, -, hfront, habs⟩ | ⟨rest, -, hfront, habs, -⟩
    · simp [frontComponents, hfront, rootOf, habs]
    · simp [frontComponents, hfront, rootOf, habs]
    · simp [frontComponents, hfront, rootOf, habs, dot, Bytes.slash]
  · exact filter_namesOf p.parts

/-- What stands at the front of a path need not be told apart from its other parts. -/
theorem steps_eq (p : Path) : p.steps = p.rootOf ++ namesOf (split p.bytes) := by
  rw [steps_eq_parts, parts]
  rcases front_cases p with ⟨hfront, -⟩ | ⟨rest, hbytes, hfront, -⟩ | ⟨rest, hbytes, hfront, -, h⟩
  · rw [hfront]
    rfl
  · rw [hfront, hbytes, split_slash_cons, namesOf_cons_of_isIgnored rfl]
    rfl
  · rcases h with rfl | ⟨more, rfl⟩
    · rw [hfront, hbytes]
      rfl
    · have hsplit : split (dot :: Bytes.slash :: more) = [dot] :: split more :=
        split_append_slash [dot] more
      rw [hfront, hbytes, hsplit, namesOf_cons_of_isIgnored rfl, List.length_singleton,
        List.drop_one, List.tail_cons, split_slash_cons, namesOf_cons_of_isIgnored rfl]

/-! ### Following -/

/-- The key that is reached from another one in steps. -/
def follow : Key → List Component → Key
  | key, [] => key
  | _, .root :: rest => follow [] rest
  | key, .current :: rest => follow key rest
  | key, .up :: rest => follow key.dropLast rest
  | key, .name part :: rest => follow (key ++ [part]) rest

/-- What stands on the way decides whether parts can be followed, but not where they lead. -/
theorem eq_follow_of_walk {files : Files} {key reached : Key}
    (h : files.walk key parts = .ok reached) : reached = follow key (namesOf parts) := by
  induction parts generalizing key with
  | nil => exact (Except.ok.inj h).symm
  | cons part rest ih =>
    rw [Files.walk] at h
    split at h
    · next hignored => rw [namesOf_cons_of_isIgnored hignored, ih h]
    · next hcounts =>
      rw [namesOf_cons_of_counts hcounts, componentOf]
      split at h
      · next hup => rw [if_pos hup, follow, ih h]
      · next hname =>
        rw [if_neg hname, follow]
        split at h
        · cases h
        · split at h
          · next hlast =>
            rw [List.isEmpty_iff.mp hlast]
            exact (Except.ok.inj h).symm
          · split at h
            · exact ih h
            · cases h
            · cases h

theorem eq_follow_of_locate {files : Files} {reached : Key} (h : files.locate p = .ok reached) :
    reached = follow files.here p.steps := by
  unfold Files.locate at h
  split_ifs at h with _ _ _ habsolute
  · rw [eq_follow_of_walk h, steps_eq, rootOf, if_pos habsolute]
    rfl
  · rw [eq_follow_of_walk h, steps_eq, rootOf, if_neg habsolute]
    rfl

/-! ### Joining -/

theorem isAbsolute_join (p q : Path) : (p.join q).isAbsolute = (p.isAbsolute || q.isAbsolute) := by
  unfold join
  cases hq : q.isAbsolute with
  | true => simp [hq]
  | false =>
    simp only [Bool.false_eq_true, if_false, Bool.or_false]
    cases hp : p.bytes with
    | nil =>
      have hp' : p.isAbsolute = false := by simp [isAbsolute, hp]
      simpa [isAbsolute, hp] using hq
    | cons b rest => split <;> simp [isAbsolute, hp]

theorem join_of_isAbsolute (p : Path) (h : q.isAbsolute = true) : p.join q = q := by
  rw [join, if_pos h]

theorem steps_join (p q : Path) :
    (p.join q).steps = if q.isAbsolute then q.steps else p.steps ++ q.steps := by
  split
  · next h => rw [join_of_isAbsolute p h]
  · next h =>
    have hq : q.isAbsolute = false := by simpa using h
    have hroot : (p.join q).rootOf = p.rootOf := by
      rw [rootOf, rootOf, isAbsolute_join, hq, Bool.or_false]
    have hnames : namesOf (split (p.join q).bytes) =
        namesOf (split p.bytes) ++ namesOf (split q.bytes) := by
      simp only [join, hq, Bool.false_eq_true, if_false]
      split
      · next hseparated =>
        rcases Bool.or_eq_true_iff.mp hseparated with hempty | hends
        · rw [List.isEmpty_iff.mp hempty]
          rfl
        · -- The path ends in a slash, which leaves an empty part behind it.
          obtain ⟨start, hstart⟩ := List.getLast?_eq_some_iff.mp (beq_iff_eq.mp hends)
          rw [hstart, split_append_slash, List.append_assoc, List.singleton_append,
            split_append_slash, namesOf_append, namesOf_append]
          simp [split, namesOf, isIgnored]
      · rw [split_append_slash, namesOf_append]
    rw [steps_eq, steps_eq p, steps_eq q, hroot, hnames, rootOf_eq_nil hq, List.nil_append,
      List.append_assoc]

theorem steps_join_eq_right_iff :
    (p.join q).steps = q.steps ↔ q.isAbsolute = true ∨ p.steps = [] := by
  rw [steps_join]
  split
  · next h => simp [h]
  · next h => simp [h]

theorem steps_join_eq_steps_join_iff (p q r : Path) :
    (p.join r).steps = (q.join r).steps ↔ r.isAbsolute = true ∨ p.steps = q.steps := by
  rw [steps_join, steps_join]
  split
  · next h => simp [h]
  · next h => simp [h]

/-! ### Taking the last component off -/

theorem front_append_spell_parts (p : Path) : p.front ++ spell p.parts = p.bytes := by
  rw [parts, spell_split]
  rcases front_cases p with ⟨hfront, -⟩ | ⟨rest, hbytes, hfront, -⟩ | ⟨rest, hbytes, hfront, -⟩
  · simp [hfront]
  · simp [hfront, hbytes]
  · simp [hfront, hbytes]

private theorem exists_dropWhile_reverse (parts : List Bytes) :
    ∃ ignored, parts = (parts.reverse.dropWhile isIgnored).reverse ++ ignored ∧
      ∀ part ∈ ignored, isIgnored part = true := by
  refine ⟨(parts.reverse.takeWhile isIgnored).reverse, ?_, fun part hpart => ?_⟩
  · rw [← List.reverse_append, List.takeWhile_append_dropWhile, List.reverse_reverse]
  · exact List.mem_takeWhile_imp (List.mem_reverse.mp hpart)

theorem exists_parts_of_lastPart? (h : p.lastPart? = some part) :
    ∃ front between after, p.parent? = some ⟨p.front ++ spell front⟩ ∧
      p.parts = front ++ (between ++ part :: after) ∧
      (∀ part ∈ between, isIgnored part = true) ∧ (∀ part ∈ after, isIgnored part = true) ∧
      isIgnored part = false ∧ ∀ last, front.getLast? = some last → isIgnored last = false := by
  have hhead (parts : List Bytes) (first : Bytes)
      (hfirst : (parts.dropWhile isIgnored).head? = some first) : isIgnored first = false := by
    have hnot := List.head?_dropWhile_not isIgnored parts
    rwa [hfirst] at hnot
  obtain ⟨others, hothers⟩ := List.head?_eq_some_iff.mp h
  obtain ⟨after, hparts, hafter⟩ := exists_dropWhile_reverse p.parts
  obtain ⟨between, hrest, hbetween⟩ := exists_dropWhile_reverse others.reverse
  rw [List.reverse_reverse] at hrest
  refine ⟨(others.dropWhile isIgnored).reverse, between, after, ?_, ?_, hbetween, hafter,
    hhead _ part h, fun last hlast => hhead others last (by rwa [← List.getLast?_reverse])⟩
  · rw [parent?, hothers]
  · calc
      p.parts = others.reverse ++ [part] ++ after := by
        rw [← List.reverse_cons, ← hothers]
        exact hparts
      _ = _ := by
        rw [hrest]
        simp

theorem steps_of_lastPart? (h : p.lastPart? = some part) :
    isAbsolute ⟨part⟩ = false ∧ steps ⟨part⟩ = [componentOf part] := by
  obtain ⟨front, between, after, -, hparts, -, -, hpart, -⟩ := exists_parts_of_lastPart? h
  have hmem : part ∈ p.parts := by simp [hparts]
  have hclean : Bytes.slash ∉ part := not_mem_of_mem_split hmem
  have hrelative : isAbsolute ⟨part⟩ = false := by
    cases part with
    | nil => rfl
    | cons b rest =>
      have hb : b ≠ Bytes.slash := fun heq => hclean (heq ▸ List.mem_cons_self)
      simp [isAbsolute, hb]
  refine ⟨hrelative, ?_⟩
  rw [steps_eq, rootOf_eq_nil hrelative, split_of_not_mem hclean, namesOf_singleton hpart]
  rfl

theorem steps_front (p : Path) : steps ⟨p.front⟩ = p.rootOf := by
  rcases front_cases p with ⟨hfront, habs⟩ | ⟨-, -, hfront, habs⟩ | ⟨-, -, hfront, habs, -⟩ <;>
    rw [hfront, rootOf, habs] <;> rfl

theorem isAbsolute_front (p : Path) : isAbsolute ⟨p.front⟩ = p.isAbsolute := by
  rcases front_cases p with ⟨hfront, habs⟩ | ⟨-, -, hfront, habs⟩ | ⟨-, -, hfront, habs, -⟩ <;>
    rw [hfront, habs] <;> rfl

theorem exists_parent?_of_lastPart? (h : p.lastPart? = some part) :
    ∃ q, p.parent? = some q ∧ q.isAbsolute = p.isAbsolute ∧
      p.steps = q.steps ++ [componentOf part] := by
  obtain ⟨front, between, after, hparent, hparts, hbetween, hafter, hpart, hlast⟩ :=
    exists_parts_of_lastPart? h
  have hnames : namesOf (between ++ part :: after) = [componentOf part] := by
    rw [← List.singleton_append, namesOf_append, namesOf_append,
      namesOf_of_forall_isIgnored hbetween, namesOf_of_forall_isIgnored hafter,
      namesOf_singleton hpart]
    rfl
  refine ⟨_, hparent, ?_⟩
  by_cases hfront : front = []
  · rw [hfront, spell_nil, List.append_nil, isAbsolute_front, steps_front]
    exact ⟨rfl, by rw [steps_eq_parts, hparts, hfront, List.nil_append, hnames]⟩
  · have hclean : ∀ part ∈ p.parts, Bytes.slash ∉ part := fun part => not_mem_of_mem_split
    rw [hparts] at hclean
    obtain ⟨hclean, hcleanRest⟩ := List.forall_mem_append.mp hclean
    have hbytes : p.bytes =
        p.front ++ spell front ++ Bytes.slash :: spell (between ++ part :: after) := by
      rw [List.append_assoc, ← spell_append hfront (by simp), ← hparts, front_append_spell_parts]
    -- The last part of the parent counts, so the parent is not empty.
    have hne : p.front ++ spell front ≠ [] := by
      intro hempty
      have hsplit := split_spell hfront hclean
      rw [(List.append_eq_nil_iff.mp hempty).2] at hsplit
      have hlastPart := hlast [] (by rw [← hsplit]; rfl)
      cases hlastPart
    have habsolute : isAbsolute ⟨p.front ++ spell front⟩ = p.isAbsolute := by
      obtain ⟨b, rest, hcons⟩ := List.exists_cons_of_ne_nil hne
      rw [isAbsolute, isAbsolute, hbytes, hcons]
      rfl
    refine ⟨habsolute, ?_⟩
    rw [steps_eq, steps_eq ⟨_⟩, hbytes, split_append_slash, namesOf_append,
      split_spell (by simp) hcleanRest, hnames, rootOf, rootOf, habsolute, List.append_assoc]

end PxeLaunch.Path

import PxeLaunch.Proofs.Host.Tree
import PxeLaunch.Proofs.Path.Components

/-!
Paths that end at a name. The system goes from name to name and passes over what does not count.
Main statements: paths with the same steps lead to the same place or fail alike if they end at the
last of them; a path that leads to a file does end at its name; and the parent of such a path, joined
with that name, leads to the same place.
-/

set_option autoImplicit false

namespace PxeLaunch

namespace Path

variable {p q : Path} {part last : Bytes} {parts more : List Bytes}

/-! ### Parts and bytes -/

private theorem componentOf_injective : Function.Injective componentOf := by
  intro a b h
  unfold componentOf at h
  split at h <;> split at h <;> simp_all

private theorem filter_eq_of_namesOf_eq (h : namesOf parts = namesOf more) :
    parts.filter (!isIgnored ·) = more.filter (!isIgnored ·) :=
  List.map_injective_iff.mpr componentOf_injective h

private theorem sublist_of_mem_split {a : Bytes} (h : part ∈ split a) : part.Sublist a := by
  induction a generalizing part with
  | nil =>
    obtain rfl : part = [] := List.mem_singleton.mp h
    exact List.Sublist.refl []
  | cons b a ih =>
    by_cases hb : b = Bytes.slash
    · rw [hb, split_slash_cons] at h
      rcases List.mem_cons.mp h with rfl | h
      · exact List.nil_sublist _
      · exact (ih h).cons b
    · obtain ⟨first, others, hsplit⟩ := exists_split a
      rw [split_cons_of_ne hb hsplit] at h
      rw [hsplit] at ih
      rcases List.mem_cons.mp h with rfl | h
      · exact (ih List.mem_cons_self).cons_cons b
      · exact (ih (List.mem_cons_of_mem _ h)).cons b

private theorem join_sublist (p : Path) (hq : q.isAbsolute = false) :
    (p.join q).bytes.Sublist (p.bytes ++ Bytes.slash :: q.bytes) := by
  rw [join, if_neg (by simp [hq])]
  split
  · exact (List.sublist_cons_self _ _).append_left _
  · exact List.Sublist.refl _

private theorem parent_join_sublist (h : p.lastPart? = some part) (hparent : p.parent? = some q)
    (hq : q.bytes ≠ []) : (q.join ⟨part⟩).bytes.Sublist p.bytes := by
  have hrelative : isAbsolute ⟨part⟩ = false := (steps_of_lastPart? h).1
  have hpart : part ≠ [] := by
    rintro rfl
    cases isIgnored_of_lastPart? h
  obtain ⟨front, between, after, hspelled, hparts, -, -, -, -⟩ := exists_parts_of_lastPart? h
  obtain rfl : _ = q := Option.some.inj (hspelled.symm.trans hparent)
  have hmem : part ∈ p.parts := by simp [hparts]
  by_cases hfront : front = []
  · rw [hfront, spell_nil, List.append_nil] at hq ⊢
    rcases front_cases p with ⟨hnil, -⟩ | ⟨rest, hbytes, hroot, -⟩ | ⟨rest, hbytes, hdot, -, hrest⟩
    · exact absurd hnil hq
    · rw [Path.parts, hroot, hbytes] at hmem
      have hjoin : (join ⟨[Bytes.slash]⟩ ⟨part⟩).bytes = Bytes.slash :: part := by
        simp [join, hrelative]
      rw [hroot, hjoin, hbytes]
      exact (sublist_of_mem_split hmem).cons_cons _
    · rw [Path.parts, hdot, hbytes] at hmem
      have hjoin : (join ⟨[dot]⟩ ⟨part⟩).bytes = dot :: Bytes.slash :: part := by
        simp [join, hrelative, dot, Bytes.slash]
      rw [hdot, hjoin, hbytes]
      rcases hrest with rfl | ⟨more, rfl⟩
      · exact absurd (List.mem_singleton.mp hmem) hpart
      · rw [List.length_singleton, List.drop_one, List.tail_cons, split_slash_cons] at hmem
        have hmore : part ∈ split more := (List.mem_cons.mp hmem).resolve_left hpart
        exact ((sublist_of_mem_split hmore).cons_cons _).cons_cons _
  · have hclean : ∀ other ∈ between ++ part :: after, Bytes.slash ∉ other := by
      intro other hother
      have hmem : other ∈ p.parts := hparts ▸ List.mem_append_right _ hother
      exact not_mem_of_mem_split hmem
    have hbytes : p.bytes =
        p.front ++ spell front ++ Bytes.slash :: spell (between ++ part :: after) := by
      rw [List.append_assoc, ← spell_append hfront (by simp), ← hparts, front_append_spell_parts]
    have hrest : part ∈ split (spell (between ++ part :: after)) := by
      rw [split_spell (by simp) hclean]
      simp
    calc
      (join ⟨p.front ++ spell front⟩ ⟨part⟩).bytes.Sublist
          (p.front ++ spell front ++ Bytes.slash :: part) := join_sublist _ hrelative
      List.Sublist _ (p.front ++ spell front ++ Bytes.slash :: spell (between ++ part :: after)) :=
        ((sublist_of_mem_split hrest).cons_cons _).append_left _
      _ = p.bytes := hbytes.symm

private theorem exists_split_of_lastPart? (h : p.lastPart? = some part) :
    ∃ start after, split p.bytes = start ++ part :: after ∧
      ∀ other ∈ after, isIgnored other = true := by
  obtain ⟨front, between, after, -, hparts, -, hafter, hpart, -⟩ := exists_parts_of_lastPart? h
  rw [← List.append_assoc] at hparts
  rcases split_cases p with hsplit | hsplit | ⟨others, hsplit, hdotted⟩
  · exact ⟨front ++ between, after, hsplit.trans hparts, hafter⟩
  · exact ⟨[] :: (front ++ between), after, by rw [hsplit, hparts]; rfl, hafter⟩
  · rw [hdotted] at hparts
    cases hstart : front ++ between with
    | nil =>
      rw [hstart] at hparts
      obtain rfl : [] = part := (List.cons.inj hparts).1
      cases hpart
    | cons first start =>
      rw [hstart] at hparts
      obtain rfl : others = start ++ part :: after := (List.cons.inj hparts).2
      exact ⟨[dot] :: start, after, hsplit, hafter⟩

/-! ### Ending at a name -/

/-- Whether the system follows a path up to a last part, which has to count. -/
structure EndsAt (p : Path) (last : Bytes) : Prop where
  clean : 0 ∉ p.bytes
  short : p.bytes.length ≤ Files.maxPath
  ends : (split p.bytes).getLast? = some last
  counts : isIgnored last = false

private theorem EndsAt.ne_nil (h : p.EndsAt last) : p.bytes ≠ [] := by
  intro hempty
  have hends := h.ends
  rw [hempty] at hends
  obtain rfl : [] = last := Option.some.inj hends
  cases h.counts

private theorem EndsAt.lastPart?_eq (h : p.EndsAt last) : p.lastPart? = some last :=
  lastPart?_of_getLast? h.ends h.counts

private theorem EndsAt.isName (h : p.EndsAt last) (hup : last ≠ [dot, dot]) : IsName last where
  counts := h.counts
  not_up := hup
  one_part := not_mem_of_lastPart? h.lastPart?_eq
  clean := by
    have hmem : last ∈ split p.bytes := List.mem_of_getLast? h.ends
    exact fun hzero => h.clean ((sublist_of_mem_split hmem).subset hzero)

theorem EndsAt.parent_join (h : p.EndsAt last) (hup : last ≠ [dot, dot])
    (hparent : p.parent? = some q) (hq : q.bytes ≠ []) : (q.join ⟨last⟩).EndsAt last := by
  have hsublist := parent_join_sublist h.lastPart?_eq hparent hq
  exact {
    clean := fun hzero => h.clean (hsublist.subset hzero)
    short := hsublist.length_le.trans h.short
    ends := getLast?_split_join q (h.isName hup)
    counts := h.counts }

theorem EndsAt.current_join (h : p.EndsAt last) (hup : last ≠ [dot, dot])
    (hlength : last.length ≤ Files.maxName) : (join ⟨[dot]⟩ ⟨last⟩).EndsAt last := by
  have hname : IsName last := h.isName hup
  have hjoin : (join ⟨[dot]⟩ ⟨last⟩).bytes = dot :: Bytes.slash :: last := by
    simp [join, hname.isAbsolute_eq_false, dot, Bytes.slash]
  refine ⟨?_, ?_, getLast?_split_join _ hname, h.counts⟩
  · rw [hjoin]
    simp [hname.clean, dot, Bytes.slash]
  · rw [hjoin]
    simp only [List.length_cons, Files.maxName, Files.maxPath] at hlength ⊢
    omega

end Path

namespace Files

variable {f : Files} {p q : Path} {key reached : Key} {part last other : Bytes}
  {parts start after : List Bytes}

private theorem walk_filter (hends : parts.getLast? = some last)
    (hlast : Path.isIgnored last = false)
    (key : Key) : f.walk key (parts.filter (!Path.isIgnored ·)) = f.walk key parts := by
  induction parts generalizing key with
  | nil => rfl
  | cons part parts ih =>
    cases parts with
    | nil =>
      obtain rfl : part = last := Option.some.inj hends
      rw [List.filter_cons_of_pos (by simp [hlast])]
      rfl
    | cons next rest =>
      rw [List.getLast?_cons_cons] at hends
      have hmem : last ∈ (next :: rest).filter (!Path.isIgnored ·) :=
        List.mem_filter.mpr ⟨List.mem_of_getLast? hends, by simp [hlast]⟩
      have hmore : ((next :: rest).filter (!Path.isIgnored ·)).isEmpty = false := by
        rw [List.isEmpty_eq_false_iff]
        exact List.ne_nil_of_mem hmem
      by_cases hcounts : Path.isIgnored part = true
      · have hskip : f.walk key (part :: next :: rest) = f.walk key (next :: rest) := by
          rw [walk, if_pos hcounts]
        rw [List.filter_cons_of_neg (by simp [hcounts]), ih hends, hskip]
      · rw [List.filter_cons_of_pos (by simpa using hcounts), walk, walk, if_neg hcounts,
          if_neg hcounts, hmore, ih hends, ih hends]
        rfl

private theorem eq_of_walk_ignored (hafter : ∀ other ∈ after, Path.isIgnored other = true)
    (hwalk : f.walk key after = .ok reached) : reached = key := by
  have hfollow := Path.eq_follow_of_walk hwalk
  rwa [Path.namesOf_of_forall_isIgnored hafter] at hfollow

private theorem folder_of_walk_append (hpart : Path.isIgnored part = false)
    (hup : part ≠ [Path.dot, Path.dot])
    (hafter : ∀ other ∈ after, Path.isIgnored other = true) (hne : after ≠ [])
    (hwalk : f.walk key (start ++ part :: after) = .ok reached) :
    f.entry? reached = some .folder := by
  induction start generalizing key with
  | nil =>
    rw [List.nil_append, walk, if_neg (by simp [hpart]), if_neg (by simpa using hup)] at hwalk
    split at hwalk
    · cases hwalk
    · rw [if_neg (by simpa using hne)] at hwalk
      split at hwalk
      · next hfolder => rw [eq_of_walk_ignored hafter hwalk, hfolder]
      · cases hwalk
      · cases hwalk
  | cons first start ih =>
    have hmore : (start ++ part :: after).isEmpty = false := by simp
    rw [List.cons_append, walk, hmore, if_neg Bool.false_ne_true] at hwalk
    split at hwalk
    · exact ih hwalk
    · split at hwalk
      · exact ih hwalk
      · split at hwalk
        · cases hwalk
        · split at hwalk
          · exact ih hwalk
          · cases hwalk
          · cases hwalk

private theorem locate_eq_walk_filter (hp : p.EndsAt last) (f : Files) :
    f.locate p = f.walk (if p.isAbsolute then [] else f.here)
      ((Path.split p.bytes).filter (!Path.isIgnored ·)) := by
  rw [locate, if_neg (by simpa using hp.clean), if_neg (by simpa using hp.ne_nil),
    if_neg (Nat.not_lt.mpr hp.short), walk_filter hp.ends hp.counts]

/-- Paths with the same steps lead to the same place, or fail alike, if they end at names. -/
theorem locate_eq_of_steps_eq (hp : p.EndsAt last) (hq : q.EndsAt other)
    (habsolute : p.isAbsolute = q.isAbsolute) (hsteps : p.steps = q.steps) (f : Files) :
    f.locate p = f.locate q := by
  have hroot : p.rootOf = q.rootOf := by rw [Path.rootOf, Path.rootOf, habsolute]
  rw [Path.steps_eq, Path.steps_eq q, hroot] at hsteps
  have hnames := Path.filter_eq_of_namesOf_eq (List.append_cancel_left hsteps)
  rw [locate_eq_walk_filter hp, locate_eq_walk_filter hq, habsolute, hnames]

theorem endsAt_of_holdsFile (hname : p.fileName? = some last) (hlocate : f.locate p = .ok key)
    (hfile : f.HoldsFile key) : p.EndsAt last ∧ last.length ≤ maxName := by
  obtain ⟨hlast, hup⟩ := Path.lastPart?_of_fileName? hname
  obtain ⟨start, after, hsplit, hafter⟩ := Path.exists_split_of_lastPart? hlast
  have hcounts : Path.isIgnored last = false := Path.isIgnored_of_lastPart? hlast
  have hfits : p.Fits := fits_of_locate hlocate
  have hempty : after = [] := by
    by_contra hne
    rw [locate_eq_walk hfits, hsplit] at hlocate
    exact hfile.ne_folder (folder_of_walk_append hcounts hup hafter hne hlocate)
  have hends : (Path.split p.bytes).getLast? = some last := by
    rw [hsplit, hempty, List.getLast?_concat]
  exact ⟨⟨hfits.clean, hfits.short, hends, hcounts⟩,
    hfits.parts last (List.mem_of_getLast? hends)⟩

end Files

end PxeLaunch

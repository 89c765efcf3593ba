import PxeLaunch.Proofs.Host.Listing
import PxeLaunch.Proofs.Profile.Registry
import PxeLaunch.Proofs.Text.Strict

/-!
The profiles of a project depend on what is in its folder of profiles alone, not on the order in
which the system lists it. A file offends if its profile cannot be loaded, is not valid, or is for
the same architecture as that of a file with a smaller name. Main statement: if no file offends,
each architecture has the profile of its file or the builtin one; otherwise the error is that of the
offending file with the smallest name.
-/

set_option autoImplicit false

namespace PxeLaunch

/-! ### The order of names -/

private theorem Bytes.before_iff_lt {a b : Bytes} : a.before b = true ↔ a < b := by
  induction a generalizing b with
  | nil => cases b <;> simp [before]
  | cons x a ih =>
    cases b with
    | nil => simp [before]
    | cons y b =>
      simp only [before, List.cons_lt_cons_iff, ← ih]
      by_cases hxy : x < y
      · simp [hxy]
      · by_cases hyx : y < x
        · have hne : x ≠ y := fun h => UInt8.lt_irrefl y (h ▸ hyx)
          simp [hxy, hyx, hne]
        · have hsame : x = y := UInt8.le_antisymm (UInt8.not_lt.mp hyx) (UInt8.not_lt.mp hxy)
          simp [hsame]

theorem Bytes.pairwise_mergeSort {α : Type} {f : α → Bytes} {l : List α} (h : (l.map f).Nodup) :
    (l.mergeSort fun a b => !(f b).before (f a)).Pairwise fun a b => f a < f b := by
  have hle {a b : Bytes} : (!b.before a) = true ↔ a ≤ b := by
    rw [Bool.not_eq_true', ← Bool.not_eq_true, before_iff_lt, List.not_lt]
  have hsorted : (l.mergeSort fun a b => !(f b).before (f a)).Pairwise fun a b => f a ≤ f b := by
    refine (List.pairwise_mergeSort (fun a b c hab hbc => ?_) (fun a b => ?_) l).imp hle.mp
    · exact hle.mpr (List.le_trans (hle.mp hab) (hle.mp hbc))
    · rw [Bool.or_eq_true, hle, hle]
      exact List.le_total _ _
  have hdistinct : (l.mergeSort fun a b => !(f b).before (f a)).Pairwise fun a b => f a ≠ f b :=
    List.pairwise_map.mp (((List.mergeSort_perm l _).map f).nodup_iff.mpr h)
  refine (hsorted.and hdistinct).imp fun {a b} hab => ?_
  by_contra hlt
  exact hab.2 (List.le_antisymm hab.1 (List.not_lt.mp hlt))

namespace Profile

def Source.IsBefore (s t : Source) : Prop := Bytes.ofString s.name < Bytes.ofString t.name

private theorem Source.ofName?_eq_some {folder : Path} {name : Bytes} {s : Source} :
    Source.ofName? folder name = some s ↔
      name = Bytes.ofString (s.name ++ fileSuffix) ∧ s.path = folder.join ⟨name⟩ := by
  simp only [ofName?, Option.bind_eq_bind, Option.bind_eq_some_iff, Utf8.decode?_eq_some_iff]
  constructor
  · rintro ⟨text, rfl, hsource⟩
    split at hsource
    · next hsuffix =>
      obtain ⟨stem, hstem⟩ := List.isSuffixOf_iff_suffix.mp hsuffix
      obtain rfl := Option.some.inj hsource
      refine ⟨?_, rfl⟩
      congr 1
      rw [← String.toList_inj, String.toList_append, String.toList_ofList, ← hstem]
      simp
    · cases hsource
  · rintro ⟨rfl, hpath⟩
    refine ⟨s.name ++ fileSuffix, rfl, ?_⟩
    have hsuffix : fileSuffix.toList.isSuffixOf (s.name ++ fileSuffix).toList = true := by
      rw [List.isSuffixOf_iff_suffix, String.toList_append]
      exact List.suffix_append _ _
    rw [if_pos hsuffix, ← hpath]
    simp

private theorem Source.eq_of_name {folder : Path} {s t : Source}
    (hs : s.path = folder.join ⟨Bytes.ofString (s.name ++ fileSuffix)⟩)
    (ht : t.path = folder.join ⟨Bytes.ofString (t.name ++ fileSuffix)⟩) (h : s.name = t.name) :
    s = t := by
  cases s
  cases t
  simp_all

/-! ### The files that count -/

/-- Whether a file is listed in the folder of profiles with a name that counts. -/
def Counts (files : Files) (projectDir : Path) (s : Source) : Prop :=
  ∃ names, files.list (projectDir.joinText folderName) = .ok names ∧
    Bytes.ofString (s.name ++ fileSuffix) ∈ names ∧
    s.path = (projectDir.joinText folderName).join ⟨Bytes.ofString (s.name ++ fileSuffix)⟩

variable {files : Files} {projectDir : Path} {s t : Source}

private theorem Counts.eq_of_name (hs : Counts files projectDir s) (ht : Counts files projectDir t)
    (h : s.name = t.name) : s = t := by
  obtain ⟨-, -, -, hs⟩ := hs
  obtain ⟨-, -, -, ht⟩ := ht
  exact Source.eq_of_name hs ht h

private theorem Counts.isBefore_or_isBefore (hs : Counts files projectDir s)
    (ht : Counts files projectDir t) (h : s ≠ t) : s.IsBefore t ∨ t.IsBefore s := by
  by_contra hnone
  obtain ⟨hst, hts⟩ := not_or.mp hnone
  exact h (hs.eq_of_name ht (Bytes.ofString_injective
    (List.le_antisymm (List.not_lt.mp hts) (List.not_lt.mp hst))))

private theorem mem_sourcesOf {folder : Path} {names : List Bytes} :
    s ∈ sourcesOf folder names ↔ Bytes.ofString (s.name ++ fileSuffix) ∈ names ∧
      s.path = folder.join ⟨Bytes.ofString (s.name ++ fileSuffix)⟩ := by
  simp only [sourcesOf, List.mem_mergeSort, List.mem_filterMap, Source.ofName?_eq_some]
  constructor
  · rintro ⟨name, hname, rfl, hpath⟩
    exact ⟨hname, hpath⟩
  · rintro ⟨hname, hpath⟩
    exact ⟨_, hname, rfl, hpath⟩

private theorem pairwise_sourcesOf (folder : Path) {names : List Bytes} (h : names.Nodup) :
    (sourcesOf folder names).Pairwise Source.IsBefore := by
  have hnodup : (names.filterMap (Source.ofName? folder)).Nodup := by
    refine h.filterMap fun name name' s hs hs' => ?_
    rw [(Source.ofName?_eq_some.mp hs).1, (Source.ofName?_eq_some.mp hs').1]
  refine Bytes.pairwise_mergeSort (f := fun s => Bytes.ofString s.name)
    (hnodup.map_on fun s hs t ht hname => ?_)
  obtain ⟨_, -, hs⟩ := List.mem_filterMap.mp hs
  obtain ⟨_, -, ht⟩ := List.mem_filterMap.mp ht
  obtain ⟨rfl, hs⟩ := Source.ofName?_eq_some.mp hs
  obtain ⟨rfl, ht⟩ := Source.ofName?_eq_some.mp ht
  exact Source.eq_of_name hs ht (Bytes.ofString_injective hname)

private theorem sourcesOf_eq_of_perm (folder : Path) {names names' : List Bytes} (h : names.Nodup)
    (hperm : names'.Perm names) : sourcesOf folder names' = sourcesOf folder names := by
  refine List.Perm.eq_of_pairwise (fun s t _ _ hst hts => absurd hts (List.lt_asymm hst))
    (pairwise_sourcesOf folder (hperm.nodup_iff.mpr h)) (pairwise_sourcesOf folder h) ?_
  exact ((List.mergeSort_perm _ _).trans (hperm.filterMap _)).trans (List.mergeSort_perm _ _).symm

private theorem exists_sources (h : files.IsProper) (projectDir : Path) :
    ∃ ss, sources files projectDir = .ok ss ∧ ss.Pairwise Source.IsBefore ∧
      ∀ s, s ∈ ss ↔ Counts files projectDir s := by
  cases hfolder : files.isFolder (projectDir.joinText folderName) with
  | false =>
    refine ⟨[], by simp [sources, hfolder], .nil, fun s => ?_⟩
    simp only [List.not_mem_nil, false_iff]
    rintro ⟨names, hnames, -⟩
    rw [Files.isFolder_of_list hnames] at hfolder
    cases hfolder
  | true =>
    obtain ⟨key, -, hlist⟩ := Files.exists_list_of_isFolder hfolder
    refine ⟨sourcesOf (projectDir.joinText folderName) (files.names key), ?_,
      pairwise_sourcesOf _ (h.nodup_names key), fun s => ?_⟩
    · simp only [sources, hfolder, if_true, hlist]
      rfl
    · simp [Counts, hlist, mem_sourcesOf]

/-! ### Files that offend -/

/-- What is wrong with a file among those that count: its profile cannot be loaded, or it is not
valid, or a file with a smaller name has a profile for the same architecture. -/
inductive Offends (files : Files) (counts : Source → Prop) (s : Source) : ProfileError → Prop
  | unloaded {e : ProfileError} (hload : load files s.path = .error e) : Offends files counts s e
  | invalid {p : Profile} (hload : load files s.path = .ok p) (hinvalid : p.isValid = false) :
      Offends files counts s (.misconfigured p.architecture
        (.invalid s!"{folderName}/{s.name}{fileSuffix}" p.issues))
  | repeated {p q : Profile} {t : Source} (hload : load files s.path = .ok p)
      (hvalid : p.isValid = true) (ht : counts t) (hbefore : t.IsBefore s)
      (hearlier : load files t.path = .ok q) (hsame : q.architecture = p.architecture) :
      Offends files counts s (.duplicate p.architecture)

variable {counts : Source → Prop} {e e' : ProfileError} {p : Profile}

private theorem Offends.unique (h : Offends files counts s e) (h' : Offends files counts s e') :
    e = e' := by
  cases h <;> cases h' <;> simp_all

private theorem exists_load_of_not_offends (h : ∀ e, ¬Offends files counts s e) :
    ∃ p, load files s.path = .ok p ∧ p.isValid = true := by
  cases hload : load files s.path with
  | error e => exact absurd (.unloaded hload) (h e)
  | ok p =>
    refine ⟨p, rfl, ?_⟩
    by_contra hvalid
    exact h _ (.invalid hload (by simpa using hvalid))

/-! ### Adding the profile of a file -/

section

variable {r : Registry}

private theorem addSource_of_load_error (h : load files s.path = .error e) :
    addSource files r s = .error e := by
  rw [addSource, h, error_bind]

private theorem addSource_of_not_isValid (h : load files s.path = .ok p)
    (hvalid : p.isValid = false) :
    addSource files r s = .error (.misconfigured p.architecture
      (.invalid s!"{folderName}/{s.name}{fileSuffix}" p.issues)) := by
  simp only [addSource, h, ok_bind, checkValid, hvalid, Bool.false_eq_true, if_false, error_bind]

private theorem addSource_of_isValid (h : load files s.path = .ok p) (hvalid : p.isValid = true) :
    addSource files r s =
      match r.get? p.architecture with
      | some _ => .error (.duplicate p.architecture)
      | none => .ok (r.put p.architecture p) := by
  simp only [addSource, h, ok_bind, checkValid, hvalid, if_true]
  cases hget : r.get? p.architecture with
  | some q =>
    exact Registry.register_eq_error.mpr
      (Registry.takeIn_eq_error.mpr ⟨rfl, .inl ⟨by simp [hget], rfl⟩⟩)
  | none => exact Registry.register_eq_ok.mpr ⟨hget, bootsFromNetwork_of_isValid hvalid, rfl⟩

def Holds (files : Files) (done : List Source) (r : Registry) : Prop :=
  ∀ a p, r.get? a = some p ↔ ∃ s ∈ done, load files s.path = .ok p ∧ p.architecture = a

private theorem holds_empty (files : Files) : Holds files [] .empty := by
  intro a p
  simp

private theorem Holds.put {done : List Source} (h : Holds files done r)
    (hload : load files s.path = .ok p) (hfree : r.get? p.architecture = none) :
    Holds files (done ++ [s]) (r.put p.architecture p) := by
  intro a q
  by_cases ha : a = p.architecture
  · subst ha
    rw [Registry.get?_put_self, Option.some.injEq]
    constructor
    · rintro rfl
      exact ⟨s, by simp, hload, rfl⟩
    · rintro ⟨t, ht, hq, hsame⟩
      rcases List.mem_append.mp ht with ht | ht
      · have hget := (h p.architecture q).mpr ⟨t, ht, hq, hsame⟩
        rw [hfree] at hget
        cases hget
      · rw [List.mem_singleton.mp ht, hload] at hq
        exact Except.ok.inj hq
  · rw [Registry.get?_put_of_ne r p ha, h a q]
    constructor
    · rintro ⟨t, ht, hq⟩
      exact ⟨t, List.mem_append_left _ ht, hq⟩
    · rintro ⟨t, ht, hq, hsame⟩
      rcases List.mem_append.mp ht with ht | ht
      · exact ⟨t, ht, hq, hsame⟩
      · rw [List.mem_singleton.mp ht, hload] at hq
        exact absurd (hsame.symm.trans (congrArg architecture (Except.ok.inj hq)).symm) ha

private theorem mem_iff_isBefore {ss done rest : List Source} (hss : ss.Pairwise Source.IsBefore)
    (hsplit : ss = done ++ s :: rest) : t ∈ done ↔ t ∈ ss ∧ t.IsBefore s := by
  rw [hsplit, List.pairwise_append, List.pairwise_cons] at hss
  obtain ⟨-, ⟨hrest, -⟩, hdone⟩ := hss
  rw [hsplit]
  constructor
  · intro ht
    exact ⟨List.mem_append_left _ ht, hdone t ht s List.mem_cons_self⟩
  · rintro ⟨ht, hbefore⟩
    rcases List.mem_append.mp ht with ht | ht
    · exact ht
    · rcases List.mem_cons.mp ht with rfl | ht
      · exact absurd hbefore (List.lt_irrefl _)
      · exact absurd hbefore (List.lt_asymm (hrest t ht))

private theorem addSource_cases {ss done rest : List Source} (hss : ss.Pairwise Source.IsBefore)
    (hsplit : ss = done ++ s :: rest) (hr : Holds files done r) :
    (∃ e, addSource files r s = .error e ∧ Offends files (· ∈ ss) s e) ∨
      ∃ r', addSource files r s = .ok r' ∧ Holds files (done ++ [s]) r' ∧
        ∀ e, ¬Offends files (· ∈ ss) s e := by
  cases hload : load files s.path with
  | error e => exact .inl ⟨e, addSource_of_load_error hload, .unloaded hload⟩
  | ok p =>
    cases hvalid : p.isValid with
    | false => exact .inl ⟨_, addSource_of_not_isValid hload hvalid, .invalid hload hvalid⟩
    | true =>
      have hadd := addSource_of_isValid (r := r) hload hvalid
      cases hget : r.get? p.architecture with
      | some q =>
        rw [hget] at hadd
        obtain ⟨t, ht, hearlier, hsame⟩ := (hr _ _).mp hget
        obtain ⟨hmem, hbefore⟩ := (mem_iff_isBefore hss hsplit).mp ht
        exact .inl ⟨_, hadd, .repeated hload hvalid hmem hbefore hearlier hsame⟩
      | none =>
        rw [hget] at hadd
        refine .inr ⟨_, hadd, hr.put hload hget, fun e he => ?_⟩
        cases he with
        | unloaded hload' => simp [hload] at hload'
        | invalid hload' hinvalid =>
          obtain rfl := Except.ok.inj (hload.symm.trans hload')
          simp [hvalid] at hinvalid
        | repeated hload' _ ht hbefore hearlier hsame =>
          obtain rfl := Except.ok.inj (hload.symm.trans hload')
          have htaken := (hr _ _).mpr
            ⟨_, (mem_iff_isBefore hss hsplit).mpr ⟨ht, hbefore⟩, hearlier, hsame⟩
          rw [hget] at htaken
          cases htaken

private theorem addSources_cases {ss done rest : List Source} (hss : ss.Pairwise Source.IsBefore)
    (hsplit : ss = done ++ rest) (hr : Holds files done r)
    (hdone : ∀ t ∈ done, ∀ e, ¬Offends files (· ∈ ss) t e) :
    (∃ r', addSources files r rest = .ok r' ∧ Holds files ss r' ∧
        ∀ t ∈ ss, ∀ e, ¬Offends files (· ∈ ss) t e) ∨
      ∃ s e, addSources files r rest = .error e ∧ s ∈ ss ∧ Offends files (· ∈ ss) s e ∧
        ∀ t ∈ ss, t.IsBefore s → ∀ e', ¬Offends files (· ∈ ss) t e' := by
  induction rest generalizing done r with
  | nil =>
    rw [List.append_nil] at hsplit
    subst hsplit
    exact .inl ⟨r, rfl, hr, hdone⟩
  | cons s rest ih =>
    obtain ⟨e, hadd, hoffends⟩ | ⟨r', hadd, hr', hfine⟩ := addSource_cases hss hsplit hr
    · refine .inr ⟨s, e, by rw [addSources, hadd, error_bind], by simp [hsplit], hoffends, ?_⟩
      exact fun t ht hbefore => hdone t ((mem_iff_isBefore hss hsplit).mpr ⟨ht, hbefore⟩)
    · rw [addSources, hadd, ok_bind]
      refine ih (by simp [hsplit]) hr' fun t ht => ?_
      rcases List.mem_append.mp ht with ht | ht
      · exact hdone t ht
      · exact List.mem_singleton.mp ht ▸ hfine

end

/-! ### The profiles of a project -/

/-- Whether each architecture has the profile of its file, or the builtin one if it has no file. -/
def IsMadeOf (files : Files) (counts : Source → Prop) (r : Registry) : Prop :=
  ∀ a, (∃ s p, counts s ∧ load files s.path = .ok p ∧ p.architecture = a ∧ r.get? a = some p) ∨
    (∀ s p, counts s → load files s.path = .ok p → p.architecture ≠ a) ∧
      r.get? a = some (builtin a)

private theorem loadRegistry_cases (h : files.IsProper) (projectDir : Path) :
    (∃ r, loadRegistry files projectDir = .ok r ∧ IsMadeOf files (Counts files projectDir) r ∧
        ∀ s, Counts files projectDir s → ∀ e, ¬Offends files (Counts files projectDir) s e) ∨
      ∃ s e, loadRegistry files projectDir = .error e ∧ Counts files projectDir s ∧
        Offends files (Counts files projectDir) s e ∧
        ∀ t, Counts files projectDir t → t.IsBefore s →
          ∀ e', ¬Offends files (Counts files projectDir) t e' := by
  obtain ⟨ss, hsources, hss, hmem⟩ := exists_sources h projectDir
  obtain ⟨own, hadd, hheld, hfine⟩ | ⟨s, e, hadd, hs, hoffends, hfirst⟩ :=
    addSources_cases hss rfl (holds_empty files) (by simp)
  · simp only [hmem] at hfine
    refine .inl ⟨own.fillBuiltins, ?_, fun a => ?_, hfine⟩
    · rw [loadRegistry, hsources, ok_bind, hadd, ok_bind]
      rfl
    · cases hget : own.get? a with
      | some p =>
        obtain ⟨s, hs, hload, ha⟩ := (hheld a p).mp hget
        exact .inl ⟨s, p, (hmem s).mp hs, hload, ha, by simp [hget]⟩
      | none =>
        refine .inr ⟨fun s p hs hload ha => ?_, by simp [hget]⟩
        have htaken := (hheld a p).mpr ⟨s, (hmem s).mpr hs, hload, ha⟩
        rw [hget] at htaken
        cases htaken
  · simp only [hmem] at hs hoffends hfirst
    refine .inr ⟨s, e, ?_, hs, hoffends, hfirst⟩
    rw [loadRegistry, hsources, ok_bind, hadd, error_bind]

private theorem eq_of_architecture_eq {q : Profile}
    (hfine : ∀ s, Counts files projectDir s → ∀ e, ¬Offends files (Counts files projectDir) s e)
    (hs : Counts files projectDir s) (ht : Counts files projectDir t)
    (hp : load files s.path = .ok p) (hq : load files t.path = .ok q)
    (h : p.architecture = q.architecture) : s = t := by
  have hlater {s t : Source} {p q : Profile} (hs : Counts files projectDir s)
      (ht : Counts files projectDir t) (hp : load files s.path = .ok p)
      (hq : load files t.path = .ok q) (h : p.architecture = q.architecture) : ¬s.IsBefore t := by
    intro hbefore
    obtain ⟨q', hload, hvalid⟩ := exists_load_of_not_offends (hfine t ht)
    obtain rfl := Except.ok.inj (hload.symm.trans hq)
    exact hfine t ht _ (.repeated hload hvalid hs hbefore hp h)
  by_contra hne
  rcases hs.isBefore_or_isBefore ht hne with hbefore | hbefore
  · exact hlater hs ht hp hq h hbefore
  · exact hlater ht hs hq hp h.symm hbefore

private theorem IsMadeOf.unique {r r' : Registry}
    (hfine : ∀ s, Counts files projectDir s → ∀ e, ¬Offends files (Counts files projectDir) s e)
    (h : IsMadeOf files (Counts files projectDir) r)
    (h' : IsMadeOf files (Counts files projectDir) r') : r = r' := by
  have hget : ∀ a, r.get? a = r'.get? a := by
    intro a
    obtain ⟨s, p, hs, hp, ha, hr⟩ | ⟨hnone, hr⟩ := h a <;>
      obtain ⟨t, q, ht, hq, ha', hr'⟩ | ⟨hnone', hr'⟩ := h' a
    · obtain rfl := eq_of_architecture_eq hfine hs ht hp hq (ha.trans ha'.symm)
      rw [hr, hr', Except.ok.inj (hp.symm.trans hq)]
    · exact absurd ha (hnone' s p hs hp)
    · exact absurd ha' (hnone t q ht hq)
    · rw [hr, hr']
  cases r
  cases r'
  exact congrArg Registry.mk (funext hget)

private theorem loadRegistry_eq_ok_iff (h : files.IsProper) {r : Registry} :
    loadRegistry files projectDir = .ok r ↔
      (∀ s, Counts files projectDir s → ∀ e, ¬Offends files (Counts files projectDir) s e) ∧
        IsMadeOf files (Counts files projectDir) r := by
  constructor
  · intro hload
    obtain ⟨r', hok, hmade, hfine⟩ | ⟨s, e, herror, -⟩ := loadRegistry_cases h projectDir
    · obtain rfl := Except.ok.inj (hok.symm.trans hload)
      exact ⟨hfine, hmade⟩
    · rw [herror] at hload
      cases hload
  · rintro ⟨hfine, hmade⟩
    obtain ⟨r', hok, hmade', -⟩ | ⟨s, e, -, hs, hoffends, -⟩ := loadRegistry_cases h projectDir
    · rw [hok, hmade.unique hfine hmade']
    · exact absurd hoffends (hfine s hs e)

private theorem loadRegistry_eq_error_iff (h : files.IsProper) :
    loadRegistry files projectDir = .error e ↔
      ∃ s, Counts files projectDir s ∧ Offends files (Counts files projectDir) s e ∧
        ∀ t, Counts files projectDir t → t.IsBefore s →
          ∀ e', ¬Offends files (Counts files projectDir) t e' := by
  constructor
  · intro hload
    obtain ⟨r, hok, -⟩ | ⟨s, e', herror, hs, hoffends, hfirst⟩ := loadRegistry_cases h projectDir
    · rw [hok] at hload
      cases hload
    · obtain rfl := Except.error.inj (herror.symm.trans hload)
      exact ⟨s, hs, hoffends, hfirst⟩
  · rintro ⟨s, hs, hoffends, hfirst⟩
    obtain ⟨r, -, -, hfine⟩ | ⟨t, e', herror, ht, hoffends', hfirst'⟩ :=
      loadRegistry_cases h projectDir
    · exact absurd hoffends (hfine s hs e)
    · obtain rfl : s = t := by
        by_contra hne
        rcases hs.isBefore_or_isBefore ht hne with hbefore | hbefore
        · exact hfirst' s hs hbefore e hoffends
        · exact hfirst t ht hbefore e' hoffends'
      rw [herror, hoffends.unique hoffends']

/-! ### The order of the listing -/

section

variable {other : Files}

private theorem load_eq_of_isListedAs (h : files.IsProper) (hother : files.IsListedAs other)
    (path : Path) : load other path = load files path := by
  simp only [load, hother.contains_eq h, hother.readText_eq h]

private theorem addSources_eq_of_isListedAs (h : files.IsProper) (hother : files.IsListedAs other)
    (r : Registry) (ss : List Source) : addSources other r ss = addSources files r ss := by
  induction ss generalizing r with
  | nil => rfl
  | cons s rest ih => simp only [addSources, addSource, load_eq_of_isListedAs h hother, ih]

private theorem sources_eq_of_isListedAs (h : files.IsProper) (hother : files.IsListedAs other)
    (projectDir : Path) : sources other projectDir = sources files projectDir := by
  have hsame := hother.isFolder_eq h (projectDir.joinText folderName)
  cases hfolder : files.isFolder (projectDir.joinText folderName) with
  | false => simp [sources, hsame, hfolder]
  | true =>
    rw [hfolder] at hsame
    obtain ⟨key, hkey, hlist⟩ := Files.exists_list_of_isFolder hfolder
    obtain ⟨key', hkey', hlist'⟩ := Files.exists_list_of_isFolder hsame
    rw [hother.locate_eq h, hkey, Except.ok.injEq] at hkey'
    subst hkey'
    have hnames := sourcesOf_eq_of_perm (projectDir.joinText folderName) (h.nodup_names key)
      (hother.names_perm key)
    simp only [sources, hsame, hfolder, if_true, hlist, hlist', Except.map, hnames]

private theorem loadRegistry_eq_of_isListedAs (h : files.IsProper) (hother : files.IsListedAs other)
    (projectDir : Path) : loadRegistry other projectDir = loadRegistry files projectDir := by
  simp only [loadRegistry, sources_eq_of_isListedAs h hother,
    addSources_eq_of_isListedAs h hother]

end

/-- In whatever order the system lists its files, the profiles of a project are the same. They can
be loaded exactly if every file that counts has a valid profile and no two of them are for the same
architecture; then each architecture has the profile of its file, or the builtin one if it has no
file. Otherwise the error is that of the file that offends and has the smallest name. -/
theorem loadRegistry_by_contents (h : files.IsProper) (projectDir : Path) :
    (∀ other, files.IsListedAs other →
      loadRegistry other projectDir = loadRegistry files projectDir) ∧
    (∀ r, loadRegistry files projectDir = .ok r ↔
      (∀ s, Counts files projectDir s → ∃ p, load files s.path = .ok p ∧ p.isValid = true) ∧
      (∀ s t p q, Counts files projectDir s → Counts files projectDir t →
        load files s.path = .ok p → load files t.path = .ok q →
        p.architecture = q.architecture → s = t) ∧
      IsMadeOf files (Counts files projectDir) r) ∧
    ∀ e, loadRegistry files projectDir = .error e ↔
      ∃ s, Counts files projectDir s ∧ Offends files (Counts files projectDir) s e ∧
        ∀ t, Counts files projectDir t → t.IsBefore s →
          ∀ e', ¬Offends files (Counts files projectDir) t e' := by
  refine ⟨fun other hother => loadRegistry_eq_of_isListedAs h hother projectDir, fun r => ?_,
    fun e => loadRegistry_eq_error_iff h⟩
  rw [loadRegistry_eq_ok_iff h]
  constructor
  · rintro ⟨hfine, hmade⟩
    exact ⟨fun s hs => exists_load_of_not_offends (hfine s hs),
      fun s t p q hs ht hp hq => eq_of_architecture_eq hfine hs ht hp hq, hmade⟩
  · rintro ⟨hvalid, halone, hmade⟩
    refine ⟨fun s hs e he => ?_, hmade⟩
    obtain ⟨p, hload, hp⟩ := hvalid s hs
    cases he with
    | unloaded hload' => simp [hload] at hload'
    | invalid hload' hinvalid =>
      obtain rfl := Except.ok.inj (hload.symm.trans hload')
      simp [hp] at hinvalid
    | repeated hload' _ ht hbefore hearlier hsame =>
      obtain rfl := halone _ _ _ _ ht hs hearlier hload' hsame
      exact List.lt_irrefl _ hbefore

def crowdedDocument : String :=
  "architecture = \"x86_64\"\nbuild-target = \"x86_64-unknown-uefi\"\n" ++
    "network-device = \"e1000\"\nmemory-mb = 512\nsmp = 1\n[firmware]\nkind = \"ovmf\"\n"

/-- A folder in which the first file is fine, the second is for the same architecture, and the third
holds no profile. They are listed the other way round, among other things. -/
def crowdedFiles : Files where
  entries :=
    let folder : Key := [.ofString "boot", .ofString "profiles"]
    [([.ofString "boot"], .folder),
      (folder, .folder),
      (folder ++ [.ofString "large.profile.toml"], .file (.ofString "memory-mb = -1") false),
      (folder ++ [.ofString "b.profile.toml"], .file (.ofString crowdedDocument) false),
      (folder ++ [0xFF :: Bytes.ofString ".profile.toml"], .file [] false),
      (folder ++ [.ofString ".profile.toml"], .file (.ofString crowdedDocument) false)]
  here := []

def crowdedSource (name : String) : Source := ⟨name, .ofString s!"boot/profiles/{name}{fileSuffix}"⟩

def crowdedProfile : Profile where
  architecture := .x86_64
  buildTarget := "x86_64-unknown-uefi"
  buildMode := .debug
  device := .e1000
  memoryMb := 512
  processors := 1
  cpuModel := none
  machine := none
  acceleration := none
  firmware := ⟨.ovmf, none⟩
  support := .supported
  noise := []

private theorem sources_crowdedFiles :
    sources crowdedFiles (.ofString "boot") =
      .ok [crowdedSource "", crowdedSource "b", crowdedSource "large"] := by
  have hlist : crowdedFiles.list (.ofString "boot/profiles") =
      .ok (crowdedFiles.names [.ofString "boot", .ofString "profiles"]) :=
    toOption_eq_some.mp (by decide +kernel)
  have hnames : (crowdedFiles.names [.ofString "boot", .ofString "profiles"]).filterMap
      (Source.ofName? (.ofString "boot/profiles")) =
        [crowdedSource "large", crowdedSource "b", crowdedSource ""] := by
    decide +kernel
  have hlarge : (crowdedSource "large").le (crowdedSource "b") = false := by decide +kernel
  have hb : (crowdedSource "b").le (crowdedSource "") = false := by decide +kernel
  have hfolder : Path.joinText (.ofString "boot") folderName = .ofString "boot/profiles" := by
    decide +kernel
  simp [sources, hfolder, Files.isFolder_of_list hlist, hlist, sourcesOf, hnames, List.mergeSort,
    hlarge, hb, Except.map, Except.mapError]

private theorem load_crowdedDocument (s : Source) (key : Key)
    (hlocate : crowdedFiles.locate s.path = .ok key)
    (hentry : crowdedFiles.entry? key = some (.file (.ofString crowdedDocument) false)) :
    load crowdedFiles s.path = .ok crowdedProfile := by
  have hget : crowdedFiles.get s.path = .ok (.file (.ofString crowdedDocument) false) := by
    rw [Files.get, hlocate, ok_bind, hentry]
  have hthere : crowdedFiles.contains s.path = true := by
    rw [Files.contains, hget]
    rfl
  have htext : crowdedFiles.readText s.path = .ok crowdedDocument := by
    simp only [Files.readText, Files.read, hget, ok_bind, Utf8.decode?_ofString]
  have hread : ofToml crowdedDocument = .ok crowdedProfile :=
    toOption_eq_some.mp (by decide +kernel)
  rw [load, if_pos hthere, htext]
  exact hread

theorem loadRegistry_by_contents_crowded :
    let counts := Counts crowdedFiles (.ofString "boot")
    crowdedFiles.IsProper ∧
    loadRegistry crowdedFiles (.ofString "boot") = .error (.duplicate .x86_64) ∧
    (∃ s, counts s ∧ Offends crowdedFiles counts s (.duplicate .x86_64) ∧
      ∀ t, counts t → t.IsBefore s → ∀ e', ¬Offends crowdedFiles counts t e') ∧
    loadRegistry { crowdedFiles with entries := crowdedFiles.entries.reverse } (.ofString "boot") =
      loadRegistry crowdedFiles (.ofString "boot") := by
  intro counts
  have hproper : crowdedFiles.IsProper := by decide
  have hfirst := load_crowdedDocument (crowdedSource "")
    [.ofString "boot", .ofString "profiles", .ofString ".profile.toml"]
    (toOption_eq_some.mp (by decide +kernel)) rfl
  have hsecond := load_crowdedDocument (crowdedSource "b")
    [.ofString "boot", .ofString "profiles", .ofString "b.profile.toml"]
    (toOption_eq_some.mp (by decide +kernel)) rfl
  have hvalid : crowdedProfile.isValid = true := by decide +kernel
  have hadd : addSources crowdedFiles .empty
      [crowdedSource "", crowdedSource "b", crowdedSource "large"] =
        .error (.duplicate .x86_64) := by
    simp only [addSources, addSource_of_isValid hfirst hvalid, Registry.get?_empty, ok_bind,
      addSource_of_isValid hsecond hvalid, Registry.get?_put_self, error_bind]
    rfl
  have herror : loadRegistry crowdedFiles (.ofString "boot") = .error (.duplicate .x86_64) := by
    rw [loadRegistry, sources_crowdedFiles, ok_bind, hadd, error_bind]
  obtain ⟨hlisted, -, hoffends⟩ := loadRegistry_by_contents hproper (.ofString "boot")
  exact ⟨hproper, herror, (hoffends _).mp herror,
    hlisted _ ⟨rfl, List.reverse_perm crowdedFiles.entries⟩⟩

end Profile

end PxeLaunch

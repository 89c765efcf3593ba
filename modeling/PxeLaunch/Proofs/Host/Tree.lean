import Mathlib.Data.List.Induction
import PxeLaunch.Proofs.Path.Way
import PxeLaunch.Proofs.Result

/-!
Trees of files, in which everything stands in a folder. Main statements: a path that the system
takes leads to the end of its way exactly if there are folders on the way; a path that goes up only
before it goes down leads to something whenever there is a folder where it leads.
-/

set_option autoImplicit false

namespace PxeLaunch

/-- Whether the system takes a path: it is not empty and holds no zero, and neither it nor any part
of it is too long. -/
structure Path.Fits (p : Path) : Prop where
  ne_nil : p.bytes ≠ []
  clean : 0 ∉ p.bytes
  short : p.bytes.length ≤ Files.maxPath
  parts : ∀ part ∈ Path.split p.bytes, part.length ≤ Files.maxName

theorem Path.Fits.not_isEmpty {p : Path} (h : p.Fits) : ¬p.bytes.isEmpty = true := by
  simpa using h.ne_nil

theorem Path.Fits.join_of_length_le {p : Path} {part other : Bytes} (h : (p.join ⟨part⟩).Fits)
    (hpart : IsName part) (hother : IsName other) (hlength : other.length ≤ part.length) :
    (p.join ⟨other⟩).Fits := by
  have hne : other ≠ [] := by
    rintro rfl
    cases hother.counts
  obtain ⟨-, hclean, hshort, hparts⟩ := h
  rcases join_cases p with ⟨-, hjoin⟩ | ⟨start, -, hjoin⟩
  · rw [hjoin part hpart] at hshort hparts
    rw [split_of_not_mem hpart.one_part, List.forall_mem_singleton] at hparts
    refine ⟨?_, ?_, ?_, ?_⟩ <;> rw [hjoin other hother]
    · exact hne
    · exact hother.clean
    · exact hlength.trans hshort
    · rw [split_of_not_mem hother.one_part, List.forall_mem_singleton]
      exact hlength.trans hparts
  · rw [hjoin part hpart] at hclean hshort hparts
    rw [split_append_slash, split_of_not_mem hpart.one_part, List.forall_mem_append,
      List.forall_mem_singleton] at hparts
    have hstart : 0 ∉ start := fun hmem => hclean (List.mem_append_left _ hmem)
    refine ⟨?_, ?_, ?_, ?_⟩ <;> rw [hjoin other hother]
    · simp
    · simp [hstart, hother.clean, Bytes.slash]
    · simp only [List.length_append, List.length_cons] at hshort ⊢
      omega
    · rw [split_append_slash, split_of_not_mem hother.one_part, List.forall_mem_append,
        List.forall_mem_singleton]
      exact ⟨hparts.1, hlength.trans hparts.2⟩

theorem Path.Fits.of_join {p : Path} {part : Bytes} (h : (p.join ⟨part⟩).Fits)
    (hpart : IsName part) (hne : p.bytes ≠ []) : p.Fits := by
  obtain ⟨-, hclean, hshort, hparts⟩ := h
  obtain ⟨hempty, -⟩ | ⟨start, hbytes, hjoin⟩ := join_cases p
  · exact absurd hempty hne
  have hlength : 1 ≤ part.length := by
    refine List.length_pos_iff.mpr ?_
    rintro rfl
    cases hpart.counts
  rw [hjoin part hpart] at hclean hshort hparts
  rw [split_append_slash, List.forall_mem_append] at hparts
  have hstart : 0 ∉ start := fun hmem => hclean (List.mem_append_left _ hmem)
  simp only [List.length_append, List.length_cons] at hshort
  refine ⟨hne, ?_, ?_, ?_⟩ <;> rcases hbytes with hbytes | hbytes <;> rw [hbytes]
  · exact hstart
  · simp [hstart, Bytes.slash]
  · omega
  · rw [List.length_append, List.length_singleton]
    omega
  · exact hparts.1
  · rw [split_append_slash, List.forall_mem_append]
    exact ⟨hparts.1, by simp [split]⟩

theorem Path.Fits.of_append {p q : Path} (hp : p.Fits) (hne : q.bytes ≠ []) {rest : Bytes}
    (hbytes : p.bytes = q.bytes ++ Bytes.slash :: rest) : q.Fits where
  ne_nil := hne
  clean := fun hmem => hp.clean (by rw [hbytes]; exact List.mem_append_left _ hmem)
  short := by
    have hshort := hp.short
    rw [hbytes, List.length_append] at hshort
    omega
  parts := fun part hpart => hp.parts part (by
    rw [hbytes, split_append_slash]
    exact List.mem_append_left _ hpart)

namespace Files

/-! ### Trees -/

/-- Whether everything stands in a folder, and relative paths start from one. -/
structure IsTree (f : Files) : Prop where
  parent : ∀ key e, f.entry? key = some e → f.entry? key.dropLast = some .folder
  here : f.entry? f.here = some .folder

def HoldsFile (f : Files) (key : Key) : Prop :=
  ∃ content access, f.entry? key = some (.file content access)

/-- Whether all that stands in the first tree stands in the second one as well. -/
def Keeps (f g : Files) : Prop := ∀ key e, f.entry? key = some e → g.entry? key = some e

variable {f g h : Files} {key other : Key} {e : Entry} {p : Path}

theorem Keeps.refl (f : Files) : f.Keeps f := fun _ _ hkey => hkey

theorem Keeps.trans (hfg : f.Keeps g) (hgh : g.Keeps h) : f.Keeps h := fun key e hkey =>
  hgh key e (hfg key e hkey)

theorem entry?_cases (f : Files) (key : Key) :
    f.entry? key = none ∨ f.entry? key = some .folder ∨ f.HoldsFile key := by
  cases hentry : f.entry? key with
  | none => exact .inl rfl
  | some e =>
    cases e with
    | folder => exact .inr (.inl rfl)
    | file content access => exact .inr (.inr ⟨content, access, hentry⟩)

theorem HoldsFile.ne_folder (hfile : f.HoldsFile key) : f.entry? key ≠ some .folder := by
  obtain ⟨content, access, hentry⟩ := hfile
  rw [hentry]
  simp

theorem HoldsFile.ne_none (hfile : f.HoldsFile key) : f.entry? key ≠ none := by
  obtain ⟨content, access, hentry⟩ := hfile
  rw [hentry]
  simp

theorem isFile_iff : f.isFile p = true ↔ ∃ key, f.locate p = .ok key ∧ f.HoldsFile key := by
  unfold isFile get
  cases hlocate : f.locate p with
  | error e => simp [error_bind]
  | ok key =>
    rw [ok_bind]
    rcases f.entry?_cases key with hnone | hfolder | ⟨content, access, hfile⟩
    · simp [hnone, HoldsFile]
    · simp [hfolder, HoldsFile]
    · exact iff_of_true (by rw [hfile]) ⟨key, rfl, content, access, hfile⟩

private theorem lookup_filter_of_ne (entries : List (Key × Entry)) (hne : other ≠ key) :
    (entries.filter (·.1 != key)).lookup other = entries.lookup other := by
  induction entries with
  | nil => rfl
  | cons x entries ih =>
    obtain ⟨k, e⟩ := x
    by_cases hk : k = key
    · rw [List.filter_cons_of_neg (by simp [hk]), ih, List.lookup_cons, hk, beq_false_of_ne hne]
    · rw [List.filter_cons_of_pos (by simp [hk]), List.lookup_cons, List.lookup_cons, ih]

theorem entry?_put (f : Files) (hkey : key ≠ []) (e : Entry) (other : Key) :
    entry? (f.put key e) other = if other = key then some e else f.entry? other := by
  by_cases hroot : other = []
  · subst hroot
    rw [if_neg (Ne.symm hkey)]
    rfl
  · have hempty : other.isEmpty = false := by simpa using hroot
    unfold entry? put
    simp only [hempty, Bool.false_eq_true, if_false]
    split
    · next heq => rw [heq, List.lookup_cons_self]
    · next hne => rw [List.lookup_cons, beq_false_of_ne hne, lookup_filter_of_ne _ hne]

theorem ne_nil_of_entry?_ne (hkey : f.entry? key ≠ some .folder) : key ≠ [] := by
  rintro rfl
  exact hkey rfl

theorem folder_put (hkey : f.entry? key ≠ some .folder) (e : Entry)
    (hother : f.entry? other = some .folder) : entry? (f.put key e) other = some .folder := by
  have hne : other ≠ key := by
    rintro rfl
    exact hkey hother
  rw [entry?_put f (ne_nil_of_entry?_ne hkey), if_neg hne, hother]

/-- A tree stays one when something other than a folder is replaced, or something new is put into a
folder. -/
private theorem IsTree.put (hf : f.IsTree) (hparent : f.entry? key.dropLast = some .folder)
    (hkey : f.entry? key ≠ some .folder) (e : Entry) : (f.put key e).IsTree := by
  have hne : key ≠ [] := ne_nil_of_entry?_ne hkey
  refine ⟨fun other x hx => ?_, folder_put hkey e hf.here⟩
  rw [entry?_put f hne] at hx
  split at hx
  · next heq =>
    rw [heq]
    exact folder_put hkey e hparent
  · exact folder_put hkey e (hf.parent other x hx)

theorem isTree_of_forall_mem (hentries : ∀ x ∈ f.entries, f.entry? x.1.dropLast = some .folder)
    (hhere : f.entry? f.here = some .folder) : f.IsTree where
  parent key e hkey := by
    by_cases hroot : key = []
    · rw [hroot]
      rfl
    · have hempty : key.isEmpty = false := by simpa using hroot
      unfold entry? at hkey
      rw [hempty, if_neg Bool.false_ne_true] at hkey
      obtain ⟨front, rest, hsplit, -⟩ := List.lookup_eq_some_iff.mp hkey
      exact hentries (key, e) (by simp [hsplit])
  here := hhere

theorem keeps_put (hkey : f.entry? key = none) (e : Entry) : f.Keeps (f.put key e) := by
  intro other x hx
  have hroot : key ≠ [] := by
    rintro rfl
    cases hkey
  have hne : other ≠ key := by
    rintro rfl
    simp [hkey] at hx
  rw [entry?_put f hroot, if_neg hne, hx]

/-! ### Following a path in a tree -/

private theorem IsTree.folder_of_isPrefix (hf : f.IsTree) {k : Key} (habove : k <+: key)
    (hkey : f.entry? key = some .folder) : f.entry? k = some .folder := by
  induction key using List.reverseRecOn with
  | nil => rwa [List.prefix_nil.mp habove]
  | append_singleton key part ih =>
    rcases List.prefix_concat_iff.mp habove with heq | habove
    · rw [heq, hkey]
    · have hparent := hf.parent _ _ hkey
      rw [List.dropLast_concat] at hparent
      exact ih habove hparent

private theorem IsTree.folder_of_mem_way (hf : f.IsTree) {parts : List Bytes}
    (hkey : f.entry? key = some .folder)
    (hstraight : (Path.namesOf parts).Pairwise fun c d => (∃ part, c = .name part) → d ≠ .up)
    (hends : f.entry? (Path.follow key (Path.namesOf parts)) = some .folder) :
    ∀ k ∈ Path.way key (Path.namesOf parts), f.entry? k = some .folder := by
  induction parts generalizing key with
  | nil => simp [Path.namesOf, Path.way]
  | cons part parts ih =>
    by_cases hcounts : Path.isIgnored part = true
    · rw [Path.namesOf_cons_of_isIgnored hcounts] at hstraight hends ⊢
      exact ih hkey hstraight hends
    rw [Path.namesOf_cons_of_counts hcounts] at hstraight hends ⊢
    obtain ⟨hfirst, hrest⟩ := List.pairwise_cons.mp hstraight
    rw [Path.componentOf] at hfirst hends ⊢
    split
    · next hup =>
      rw [if_pos hup] at hends
      have hnext : f.entry? key.dropLast = some .folder := hf.parent key _ hkey
      exact List.forall_mem_cons.mpr ⟨hnext, ih hnext hrest hends⟩
    · next hname =>
      rw [if_neg hname] at hfirst hends
      have hdown : ∀ c ∈ Path.Component.name part :: Path.namesOf parts,
          ∃ other, c = .name other := by
        refine List.forall_mem_cons.mpr ⟨⟨part, rfl⟩, fun c hc => ?_⟩
        have hnotUp := hfirst c hc ⟨part, rfl⟩
        obtain ⟨other, -, rfl⟩ := List.mem_map.mp hc
        rw [Path.componentOf] at hnotUp ⊢
        split
        · next hup => exact absurd (if_pos hup) hnotUp
        · exact ⟨other, rfl⟩
      intro k hk
      exact hf.folder_of_isPrefix ((Path.isPrefix_of_mem_way key hdown).2 k hk) hends

theorem entry?_of_mem_way_rootOf (f : Files) (q : Path) {k : Key}
    (hk : k ∈ Path.way f.here q.rootOf) : f.entry? k = some .folder := by
  rw [Path.rootOf] at hk
  split at hk
  · obtain rfl : k = [] := List.mem_singleton.mp hk
    rfl
  · cases hk

/-- A path whose last part counts can be followed if folders are on the way to that part. If not, it
fails at something that is missing there or at a file. -/
private theorem IsTree.walk_cases (hf : f.IsTree) (key : Key) (front : List Bytes) (last : Bytes)
    (hkey : f.entry? key = some .folder) (hlast : Path.isIgnored last = false)
    (hparts : ∀ part ∈ front ++ [last], part.length ≤ maxName) :
    (∀ k ∈ Path.way key (Path.namesOf front), f.entry? k = some .folder) ∧
        f.walk key (front ++ [last]) = .ok (Path.follow key (Path.namesOf (front ++ [last]))) ∨
      (∃ k ∈ Path.way key (Path.namesOf front), f.entry? k = none) ∧
        f.walk key (front ++ [last]) = .error .notFound ∨
      (∃ k ∈ Path.way key (Path.namesOf front), f.HoldsFile k) ∧
        f.walk key (front ++ [last]) = .error .notDirectory := by
  induction front generalizing key with
  | nil =>
    refine .inl ⟨by simp [Path.namesOf, Path.way], ?_⟩
    rw [List.nil_append, Path.namesOf_singleton hlast, Path.componentOf, walk,
      if_neg (by simp [hlast])]
    split
    · rfl
    · rw [if_neg (Nat.not_lt.mpr (hparts last (by simp)))]
      rfl
  | cons part front ih =>
    obtain ⟨hpart, hparts⟩ := List.forall_mem_cons.mp hparts
    have hmore : (front ++ [last]).isEmpty = false := by simp
    rw [List.cons_append, walk]
    split
    · next hignored =>
      rw [Path.namesOf_cons_of_isIgnored hignored, Path.namesOf_cons_of_isIgnored hignored]
      exact ih key hkey hparts
    · next hcounts =>
      rw [Path.namesOf_cons_of_counts hcounts, Path.namesOf_cons_of_counts hcounts,
        Path.componentOf]
      split
      · next hup =>
        have hnext : f.entry? key.dropLast = some .folder := hf.parent key _ hkey
        rcases ih key.dropLast hnext hparts with
          ⟨hway, hwalk⟩ | ⟨⟨k, hk, hnone⟩, hwalk⟩ | ⟨⟨k, hk, hfile⟩, hwalk⟩
        · exact .inl ⟨List.forall_mem_cons.mpr ⟨hnext, hway⟩, hwalk⟩
        · exact .inr (.inl ⟨⟨k, List.mem_cons_of_mem _ hk, hnone⟩, hwalk⟩)
        · exact .inr (.inr ⟨⟨k, List.mem_cons_of_mem _ hk, hfile⟩, hwalk⟩)
      · rw [if_neg (Nat.not_lt.mpr hpart), hmore, if_neg Bool.false_ne_true]
        rcases f.entry?_cases (key ++ [part]) with hnone | hfolder | hfile
        · rw [hnone]
          exact .inr (.inl ⟨⟨_, List.mem_cons_self, hnone⟩, rfl⟩)
        · rw [hfolder]
          rcases ih (key ++ [part]) hfolder hparts with
            ⟨hway, hwalk⟩ | ⟨⟨k, hk, hnone⟩, hwalk⟩ | ⟨⟨k, hk, hfile⟩, hwalk⟩
          · exact .inl ⟨List.forall_mem_cons.mpr ⟨hfolder, hway⟩, hwalk⟩
          · exact .inr (.inl ⟨⟨k, List.mem_cons_of_mem _ hk, hnone⟩, hwalk⟩)
          · exact .inr (.inr ⟨⟨k, List.mem_cons_of_mem _ hk, hfile⟩, hwalk⟩)
        · obtain ⟨content, access, hentry⟩ := hfile
          rw [hentry]
          exact .inr (.inr ⟨⟨_, List.mem_cons_self, content, access, hentry⟩, rfl⟩)

theorem locate_eq_walk (hp : p.Fits) (f : Files) :
    f.locate p = f.walk (if p.isAbsolute then [] else f.here) (Path.split p.bytes) := by
  rw [locate, if_neg (by simpa using hp.clean), if_neg hp.not_isEmpty,
    if_neg (Nat.not_lt.mpr hp.short)]

private theorem walk_of_folders {parts : List Bytes}
    (hway : ∀ k ∈ Path.way key (Path.namesOf parts), f.entry? k = some .folder)
    (hparts : ∀ part ∈ parts, part.length ≤ maxName) :
    f.walk key parts = .ok (Path.follow key (Path.namesOf parts)) := by
  induction parts generalizing key with
  | nil => rfl
  | cons part parts ih =>
    obtain ⟨hpart, hparts⟩ := List.forall_mem_cons.mp hparts
    rw [walk]
    split
    · next hignored =>
      rw [Path.namesOf_cons_of_isIgnored hignored] at hway ⊢
      exact ih hway hparts
    · next hcounts =>
      rw [Path.namesOf_cons_of_counts hcounts, Path.componentOf] at hway ⊢
      split
      · next hup =>
        rw [if_pos hup] at hway
        exact ih (List.forall_mem_cons.mp hway).2 hparts
      · next hname =>
        rw [if_neg hname] at hway
        obtain ⟨hfolder, hway⟩ := List.forall_mem_cons.mp hway
        rw [if_neg (Nat.not_lt.mpr hpart)]
        split
        · next hlast =>
          rw [List.isEmpty_iff.mp hlast]
          rfl
        · rw [show f.entry? (key ++ [part]) = some .folder from hfolder]
          exact ih hway hparts

private theorem locate_of_folders (hp : p.Fits)
    (hway : ∀ k ∈ Path.way f.here p.steps, f.entry? k = some .folder) :
    f.locate p = .ok (Path.follow f.here p.steps) := by
  rw [locate_eq_walk hp]
  rw [Path.steps_eq, Path.rootOf] at hway ⊢
  split
  · next habsolute =>
    rw [if_pos habsolute] at hway
    exact walk_of_folders (List.forall_mem_cons.mp hway).2 hp.parts
  · next habsolute =>
    rw [if_neg habsolute] at hway
    exact walk_of_folders hway hp.parts

theorem IsTree.folder_of_isStraight (hf : f.IsTree) (hstraight : p.IsStraight)
    (hends : f.entry? (Path.follow f.here p.steps) = some .folder) :
    ∀ k ∈ Path.way f.here p.steps, f.entry? k = some .folder := by
  rw [Path.IsStraight, Path.steps_eq, Path.rootOf] at hstraight
  rw [Path.steps_eq, Path.rootOf] at hends ⊢
  split
  · next habsolute =>
    rw [if_pos habsolute] at hstraight hends
    have hrest := (List.pairwise_cons.mp hstraight).2
    exact List.forall_mem_cons.mpr ⟨rfl, hf.folder_of_mem_way rfl hrest hends⟩
  · next habsolute =>
    rw [if_neg habsolute] at hstraight hends
    exact hf.folder_of_mem_way hf.here hstraight hends

theorem IsTree.contains_of_isStraight (hf : f.IsTree) (hp : p.Fits) (hstraight : p.IsStraight)
    (hends : f.entry? (Path.follow f.here p.steps) = some .folder) : f.contains p = true := by
  rw [contains, get, locate_of_folders hp (hf.folder_of_isStraight hstraight hends), ok_bind, hends]
  rfl

private theorem length_le_of_walk {parts : List Bytes} {reached : Key}
    (hwalk : f.walk key parts = .ok reached) : ∀ part ∈ parts, part.length ≤ maxName := by
  induction parts generalizing key with
  | nil => simp
  | cons part parts ih =>
    rw [walk] at hwalk
    split at hwalk
    · next hignored =>
      refine List.forall_mem_cons.mpr ⟨?_, ih hwalk⟩
      rcases Bool.or_eq_true_iff.mp hignored with hempty | hdot
      · rw [List.isEmpty_iff.mp hempty]
        exact Nat.zero_le _
      · rw [beq_iff_eq.mp hdot]
        decide
    · split at hwalk
      · next hup =>
        refine List.forall_mem_cons.mpr ⟨?_, ih hwalk⟩
        rw [beq_iff_eq.mp hup]
        decide
      · split at hwalk
        · cases hwalk
        · next hlength =>
          refine List.forall_mem_cons.mpr ⟨Nat.not_lt.mp hlength, ?_⟩
          split at hwalk
          · next hlast => simp [List.isEmpty_iff.mp hlast]
          · split at hwalk
            · exact ih hwalk
            · cases hwalk
            · cases hwalk

theorem fits_of_locate {reached : Key} (hlocate : f.locate p = .ok reached) : p.Fits := by
  rw [locate] at hlocate
  split at hlocate
  · cases hlocate
  next hclean =>
  split at hlocate
  · cases hlocate
  next hne =>
  split at hlocate
  · cases hlocate
  next hshort =>
  exact ⟨by simpa using hne, by simpa using hclean, Nat.not_lt.mp hshort,
    length_le_of_walk hlocate⟩

private theorem IsTree.folder_of_walk (hf : f.IsTree) {parts : List Bytes} {reached : Key}
    (hkey : f.entry? key = some .folder) (hwalk : f.walk key parts = .ok reached) :
    f.entry? reached = some .folder ∨ f.entry? reached.dropLast = some .folder := by
  induction parts generalizing key with
  | nil =>
    obtain rfl : key = reached := Except.ok.inj hwalk
    exact .inl hkey
  | cons part parts ih =>
    rw [walk] at hwalk
    split at hwalk
    · exact ih hkey hwalk
    · split at hwalk
      · exact ih (hf.parent key _ hkey) hwalk
      · split at hwalk
        · cases hwalk
        · split at hwalk
          · obtain rfl : key ++ [part] = reached := Except.ok.inj hwalk
            rw [List.dropLast_concat]
            exact .inr hkey
          · split at hwalk
            · next hfolder => exact ih hfolder hwalk
            · cases hwalk
            · cases hwalk

theorem IsTree.put_of_locate (hf : f.IsTree) (hlocate : f.locate p = .ok key)
    (hkey : f.entry? key ≠ some .folder) (e : Entry) : (f.put key e).IsTree := by
  rw [locate_eq_walk (fits_of_locate hlocate)] at hlocate
  have hstart : f.entry? (if p.isAbsolute then [] else f.here) = some .folder := by
    split
    · rfl
    · exact hf.here
  exact hf.put ((hf.folder_of_walk hstart hlocate).resolve_left hkey) hkey e

private theorem steps_of_split {front : List Bytes} {last : Bytes}
    (hsplit : Path.split p.bytes = front ++ [last]) (hlast : Path.isIgnored last = false) :
    p.steps = p.rootOf ++ Path.namesOf front ++ [Path.componentOf last] := by
  rw [Path.steps_eq, hsplit, Path.namesOf_append, Path.namesOf_singleton hlast, List.append_assoc]

theorem IsTree.locate_cases (hf : f.IsTree) (hp : p.Fits) {last : Bytes}
    (hends : (Path.split p.bytes).getLast? = some last) (hlast : Path.isIgnored last = false)
    {cs : List Path.Component} (hsteps : p.steps = cs ++ [Path.componentOf last]) :
    (∀ k ∈ Path.way f.here cs, f.entry? k = some .folder) ∧
        f.locate p = .ok (Path.follow f.here p.steps) ∨
      (∃ k ∈ Path.way f.here cs, f.entry? k = none) ∧ f.locate p = .error .notFound ∨
      (∃ k ∈ Path.way f.here cs, f.HoldsFile k) ∧ f.locate p = .error .notDirectory := by
  obtain ⟨front, hsplit⟩ := List.getLast?_eq_some_iff.mp hends
  obtain rfl : p.rootOf ++ Path.namesOf front = cs :=
    List.append_cancel_right ((steps_of_split hsplit hlast).symm.trans hsteps)
  have hparts : ∀ part ∈ front ++ [last], part.length ≤ maxName := hsplit ▸ hp.parts
  rw [locate_eq_walk hp, hsplit, Path.steps_eq, hsplit]
  cases habsolute : p.isAbsolute with
  | false =>
    have hroot : p.rootOf = [] := Path.rootOf_eq_nil habsolute
    rw [hroot, if_neg Bool.false_ne_true]
    exact hf.walk_cases f.here front last hf.here hlast hparts
  | true =>
    have hroot : p.rootOf = [.root] := by rw [Path.rootOf, habsolute, if_pos rfl]
    rw [hroot, if_pos rfl]
    rcases hf.walk_cases [] front last rfl hlast hparts with
      ⟨hway, hwalk⟩ | ⟨⟨k, hk, hnone⟩, hwalk⟩ | ⟨⟨k, hk, hfile⟩, hwalk⟩
    · exact .inl ⟨List.forall_mem_cons.mpr ⟨rfl, hway⟩, hwalk⟩
    · exact .inr (.inl ⟨⟨k, List.mem_cons_of_mem _ hk, hnone⟩, hwalk⟩)
    · exact .inr (.inr ⟨⟨k, List.mem_cons_of_mem _ hk, hfile⟩, hwalk⟩)

end Files

end PxeLaunch

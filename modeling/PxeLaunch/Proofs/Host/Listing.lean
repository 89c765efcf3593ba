import Mathlib.Data.List.Nodup
import PxeLaunch.Host.Files
import PxeLaunch.Proofs.Result

/-!
Trees of files that are the same but for the order in which a system lists them. Whatever is looked
up in them is the same, and the names in a folder are the same in some other order.
-/

set_option autoImplicit false

namespace PxeLaunch

theorem lookup_eq_some_iff_mem {α β : Type} [BEq α] [LawfulBEq α] {l : List (α × β)}
    (h : (l.map Prod.fst).Nodup) {key : α} {b : β} :
    l.lookup key = some b ↔ (key, b) ∈ l := by
  rw [List.lookup_eq_some_iff]
  constructor
  · rintro ⟨front, rest, rfl, -⟩
    exact List.mem_append_right front List.mem_cons_self
  · intro hmem
    obtain ⟨front, rest, rfl⟩ := List.append_of_mem hmem
    refine ⟨front, rest, rfl, fun other hother => ?_⟩
    rw [List.map_append, List.map_cons, List.nodup_append] at h
    have hne := h.2.2 other.1 (List.mem_map_of_mem hother) key List.mem_cons_self
    simpa using Ne.symm hne

namespace Files

/-- Whether nothing stands under a key twice. -/
def IsProper (f : Files) : Prop := (f.entries.map Prod.fst).Nodup

instance (f : Files) : Decidable f.IsProper :=
  inferInstanceAs (Decidable (f.entries.map Prod.fst).Nodup)

/-- Whether a tree is listed in another order, or in the same. -/
structure IsListedAs (f g : Files) : Prop where
  here_eq : g.here = f.here
  perm : g.entries.Perm f.entries

variable {f g : Files}

private theorem IsProper.lookup_eq_some_iff (h : f.IsProper) {key : Key} {e : Entry} :
    f.entries.lookup key = some e ↔ (key, e) ∈ f.entries := lookup_eq_some_iff_mem h

private theorem IsListedAs.entry?_eq (h : f.IsListedAs g) (hf : f.IsProper) (key : Key) :
    g.entry? key = f.entry? key := by
  have hg : g.IsProper := (h.perm.map Prod.fst).nodup_iff.mpr hf
  have hlookup : g.entries.lookup key = f.entries.lookup key := by
    refine Option.ext fun e => ?_
    rw [hg.lookup_eq_some_iff, hf.lookup_eq_some_iff, h.perm.mem_iff]
  unfold entry?
  rw [hlookup]

private theorem walk_eq (h : ∀ key, g.entry? key = f.entry? key) (parts : List Bytes) (key : Key) :
    g.walk key parts = f.walk key parts := by
  induction parts generalizing key with
  | nil => rfl
  | cons part rest ih => simp only [walk, ih, h]

theorem IsListedAs.locate_eq (h : f.IsListedAs g) (hf : f.IsProper) (p : Path) :
    g.locate p = f.locate p := by
  simp only [locate, walk_eq (h.entry?_eq hf), h.here_eq]

private theorem IsListedAs.get_eq (h : f.IsListedAs g) (hf : f.IsProper) (p : Path) :
    g.get p = f.get p := by
  simp only [get, h.locate_eq hf, h.entry?_eq hf]

theorem IsListedAs.isFolder_eq (h : f.IsListedAs g) (hf : f.IsProper) (p : Path) :
    g.isFolder p = f.isFolder p := by
  rw [isFolder, isFolder, h.get_eq hf]

theorem IsListedAs.contains_eq (h : f.IsListedAs g) (hf : f.IsProper) (p : Path) :
    g.contains p = f.contains p := by
  rw [contains, contains, h.get_eq hf]

theorem IsListedAs.readText_eq (h : f.IsListedAs g) (hf : f.IsProper) (p : Path) :
    g.readText p = f.readText p := by
  simp only [readText, read, h.get_eq hf]

/-! ### The names in a folder -/

theorem IsProper.nodup_names (h : f.IsProper) (key : Key) : (f.names key).Nodup := by
  have hnames : f.names key = (f.entries.map Prod.fst).filterMap fun k =>
      if k.dropLast == key then k.getLast? else none := by
    rw [List.filterMap_map]
    rfl
  rw [hnames]
  refine List.Nodup.filterMap (fun k k' name hk hk' => ?_) h
  simp only [Option.mem_def, beq_iff_eq, Option.ite_none_right_eq_some,
    List.getLast?_eq_some_iff] at hk hk'
  obtain ⟨rfl, start, rfl⟩ := hk
  obtain ⟨hsame, start', rfl⟩ := hk'
  rw [List.dropLast_concat, List.dropLast_concat] at hsame
  rw [hsame]

theorem IsListedAs.names_perm (h : f.IsListedAs g) (key : Key) :
    (g.names key).Perm (f.names key) := h.perm.filterMap _

theorem exists_list_of_isFolder {p : Path} (h : f.isFolder p = true) :
    ∃ key, f.locate p = .ok key ∧ f.list p = .ok (f.names key) := by
  rw [isFolder] at h
  split at h
  · next hget =>
    obtain ⟨key, hkey, -⟩ := bind_eq_ok.mp hget
    refine ⟨key, hkey, ?_⟩
    rw [list, hget, ok_bind, hkey]
    rfl
  · cases h

theorem isFolder_of_list {p : Path} {names : List Bytes} (h : f.list p = .ok names) :
    f.isFolder p = true := by
  obtain ⟨e, hget, hlist⟩ := bind_eq_ok.mp h
  cases e with
  | folder => rw [isFolder, hget]
  | file content access => cases hlist

end Files

end PxeLaunch

import PxeLaunch.Proofs.Toml.Entry
import PxeLaunch.Toml.Document

/-!
How the table of a document grows, statement by statement. Main statements: what the statements of a
document do to its table is of a few kinds; a value that has been assigned stays under its keys,
whatever statements follow.
-/

set_option autoImplicit false

namespace PxeLaunch.Toml

/-- What statements do to a table: they add keys, change tables that are under keys, and give a
header to a table that other headers implied. The values that they add are of one kind. -/
inductive Entries.Grows (kind : Value → Prop) : Entries → Entries → Prop
  | refl (es : Entries) : Grows kind es es
  | trans {es es' es'' : Entries} (first : Grows kind es es') (second : Grows kind es' es'') :
      Grows kind es es''
  | value {es : Entries} {key : String} {v : Value} (hnew : es.get? key = none) (hv : kind v) :
      Grows kind es (es ++ [(key, .value v)])
  | table {es : Entries} {key : String} (origin : Origin) (hnew : es.get? key = none) :
      Grows kind es (es ++ [(key, .table origin [])])
  | list {es : Entries} {key : String} (hnew : es.get? key = none) :
      Grows kind es (es ++ [(key, .tables [[]])])
  | inTable {es inner inner' : Entries} {key : String} {origin : Origin}
      (hkey : es.get? key = some (.table origin inner)) (hinner : Grows kind inner inner') :
      Grows kind es (es.put key (.table origin inner'))
  | inLast {es last last' : Entries} {key : String} {others : List Entries}
      (hkey : es.get? key = some (.tables (others ++ [last]))) (hlast : Grows kind last last') :
      Grows kind es (es.put key (.tables (others ++ [last'])))
  | item {es : Entries} {key : String} {items : List Entries}
      (hkey : es.get? key = some (.tables items)) :
      Grows kind es (es.put key (.tables (items ++ [[]])))
  | header {es inner : Entries} {key : String}
      (hkey : es.get? key = some (.table .implied inner)) :
      Grows kind es (es.remove key ++ [(key, .table .header inner)])

namespace Entries

variable {kind : Value → Prop} {es es' inner inner' : Entries} {key : String} {path : List String}
  {v : Value} {f : Entries → Option Entries}

/-! ### Steps -/

private theorem Grows.newTable (origin : Origin) (hnew : es.get? key = none)
    (hinner : Grows kind [] inner) : Grows kind es (es ++ [(key, .table origin inner)]) := by
  have hput := Grows.inTable (get?_concat_self hnew (.table origin [])) hinner
  rw [put_concat hnew] at hput
  exact (Grows.table origin hnew).trans hput

private theorem Grows.changeLast {items items' : List Entries}
    (hf : ∀ es es', f es = some es' → Grows kind es es')
    (hkey : es.get? key = some (.tables items)) (h : changeLast f items = some items') :
    Grows kind es (es.put key (.tables items')) := by
  obtain ⟨others, last, last', rfl, hlast, rfl⟩ := changeLast_eq_some h
  exact .inLast hkey (hf last last' hlast)

private theorem grows_insertNew (hv : kind v) (h : es.insertNew key v = some es') :
    Grows kind es es' := by
  rw [insertNew] at h
  split at h
  · next hnew =>
    obtain rfl := Option.some.inj h
    exact .value hnew hv
  · cases h

private theorem grows_assignDotted (hv : kind v) {origin : Origin}
    (h : assignDotted v path origin es = some es') : Grows kind es es' := by
  induction path generalizing origin es es' with
  | nil => cases h
  | cons key rest ih =>
    cases rest with
    | nil =>
      rw [assignDotted] at h
      split at h
      · exact grows_insertNew hv h
      · cases h
    | cons next rest =>
      rw [assignDotted] at h
      · split at h
        · next hnew =>
          obtain ⟨inner, hinner, rfl⟩ := Option.map_eq_some_iff.mp h
          exact .newTable .dotted hnew (ih hinner)
        · cases h
        · cases h
        · next origin inner _ hkey =>
          obtain ⟨inner', hinner, rfl⟩ := Option.map_eq_some_iff.mp h
          exact .inTable hkey (ih hinner)
        · next items hkey =>
          obtain ⟨items', hitems, rfl⟩ := Option.map_eq_some_iff.mp h
          exact .changeLast (fun _ _ => ih) hkey hitems
      · exact fun heq => List.cons_ne_nil _ _ heq

theorem grows_assign (hv : kind v) (h : es.assign path v = some es') : Grows kind es es' := by
  unfold assign at h
  split at h
  · exact grows_insertNew hv h
  · exact grows_assignDotted hv h

private theorem grows_descend (hf : ∀ es es', f es = some es' → Grows kind es es')
    (h : descend f path es = some es') : Grows kind es es' := by
  induction path generalizing es es' with
  | nil => exact hf es es' h
  | cons key rest ih =>
    rw [descend] at h
    split at h
    · next hnew =>
      obtain ⟨inner, hinner, rfl⟩ := Option.map_eq_some_iff.mp h
      exact .newTable .implied hnew (ih hinner)
    · cases h
    · next origin inner hkey =>
      obtain ⟨inner', hinner, rfl⟩ := Option.map_eq_some_iff.mp h
      exact .inTable hkey (ih hinner)
    · next items hkey =>
      obtain ⟨items', hitems, rfl⟩ := Option.map_eq_some_iff.mp h
      exact .changeLast (fun _ _ => ih) hkey hitems

private theorem grows_openTable (h : openTable key es = some es') : Grows kind es es' := by
  rw [openTable] at h
  split at h
  · next hnew =>
    obtain rfl := Option.some.inj h
    exact .table .header hnew
  · next inner hkey =>
    obtain rfl := Option.some.inj h
    exact .header hkey
  · cases h

private theorem grows_openItem (h : openItem key es = some es') : Grows kind es es' := by
  rw [openItem] at h
  split at h
  · next hnew =>
    obtain rfl := Option.some.inj h
    exact .list hnew
  · next items hkey =>
    obtain rfl := Option.some.inj h
    exact .item hkey
  · cases h

end Entries

private theorem Document.grows_step {kind : Value → Prop} {s s' : Document.State}
    {statement : Statement} (hkind : ∀ path v, statement = .assignment path v → kind v)
    (h : Document.step s statement = some s') : Entries.Grows kind s.entries s'.entries := by
  cases statement with
  | header path =>
    obtain ⟨entries, hentries, rfl⟩ := Option.map_eq_some_iff.mp h
    exact Entries.grows_descend (fun _ _ => Entries.grows_openTable) hentries
  | arrayHeader path =>
    obtain ⟨entries, hentries, rfl⟩ := Option.map_eq_some_iff.mp h
    exact Entries.grows_descend (fun _ _ => Entries.grows_openItem) hentries
  | assignment path v =>
    obtain ⟨entries, hentries, rfl⟩ := Option.map_eq_some_iff.mp h
    exact Entries.grows_descend (fun _ _ => Entries.grows_assign (hkind path v rfl)) hentries

theorem Document.grows_run {kind : Value → Prop} {s s' : Document.State}
    {statements : List Statement}
    (hkind : ∀ path v, .assignment path v ∈ statements → kind v)
    (h : Document.run s statements = some s') : Entries.Grows kind s.entries s'.entries := by
  induction statements generalizing s with
  | nil =>
    obtain rfl := Option.some.inj h
    exact .refl _
  | cons statement rest ih =>
    obtain ⟨next, hstep, hrun⟩ := Option.bind_eq_some_iff.mp h
    have hfirst := grows_step (fun path v heq => hkind path v (heq ▸ List.mem_cons_self)) hstep
    exact hfirst.trans (ih (fun path v hmem => hkind path v (List.mem_cons_of_mem _ hmem)) hrun)

theorem Document.parse?_eq_some {text : String} {table : Table} :
    Document.parse? text = some table ↔ ∃ statements stop,
      Statement.read? text.toList = some statements ∧
        Document.run ⟨[], []⟩ statements = some stop ∧ table = stop.entries.toTable := by
  simp only [Document.parse?, Option.bind_eq_bind, Option.bind_eq_some_iff, Option.pure_def,
    Option.some.injEq, eq_comm (a := table), exists_and_left]

/-! ### Values stay -/

/-- Whether a value stands under keys, of which all but the last lead from table to table. -/
inductive Entries.Holds : Entries → List String → Value → Prop
  | here {es : Entries} {key : String} {v : Value} (hkey : es.get? key = some (.value v)) :
      Holds es [key] v
  | inside {es inner : Entries} {key : String} {origin : Origin} {path : List String} {v : Value}
      (hkey : es.get? key = some (.table origin inner)) (hinner : Holds inner path v) :
      Holds es (key :: path) v

namespace Entries

variable {kind : Value → Prop} {es es' : Entries} {key : String} {path : List String} {v : Value}

private theorem Holds.of_get? (h : es.Holds path v)
    (hvalue : ∀ key v, es.get? key = some (.value v) → es'.get? key = some (.value v))
    (htable : ∀ key origin inner, es.get? key = some (.table origin inner) →
      ∃ origin' inner', es'.get? key = some (.table origin' inner') ∧
        ∀ path v, Holds inner path v → Holds inner' path v) : es'.Holds path v := by
  cases h with
  | here hkey => exact .here (hvalue _ _ hkey)
  | inside hkey hinner =>
    obtain ⟨origin', inner', hkey', hholds⟩ := htable _ _ _ hkey
    exact .inside hkey' (hholds _ _ hinner)

private theorem Holds.concat (h : es.Holds path v) (key : String) (e : Entry) :
    Holds (es ++ [(key, e)]) path v :=
  h.of_get? (fun other v hother => by rw [get?_concat, hother]; rfl)
    fun other origin inner hother =>
      ⟨origin, inner, by rw [get?_concat, hother]; rfl, fun _ _ hinner => hinner⟩

private theorem Holds.put (h : es.Holds path v) {old e : Entry} (hkey : es.get? key = some old)
    (hvalue : ∀ v, old ≠ .value v)
    (htable : ∀ origin inner, old = .table origin inner → ∃ inner', e = .table origin inner' ∧
      ∀ path v, Holds inner path v → Holds inner' path v) : Holds (es.put key e) path v := by
  refine h.of_get? (fun other v hother => ?_) fun other origin inner hother => ?_
  · have hne : other ≠ key := by
      rintro rfl
      exact hvalue v (Option.some.inj (hkey.symm.trans hother))
    rw [get?_put, if_neg hne, hother]
  · rw [get?_put]
    split
    · next heq =>
      subst heq
      obtain ⟨inner', rfl, hholds⟩ := htable origin inner (Option.some.inj (hkey.symm.trans hother))
      exact ⟨origin, inner', rfl, hholds⟩
    · exact ⟨origin, inner, hother, fun _ _ hinner => hinner⟩

private theorem Holds.header (h : es.Holds path v) {inner : Entries}
    (hkey : es.get? key = some (.table .implied inner)) :
    Holds (es.remove key ++ [(key, .table .header inner)]) path v := by
  refine h.of_get? (fun other v hother => ?_) fun other origin found hother => ?_
  · have hne : other ≠ key := by
      rintro rfl
      cases hkey.symm.trans hother
    rw [get?_concat, get?_remove, if_neg hne, hother]
    rfl
  · rw [get?_concat, get?_remove]
    split
    · next heq =>
      subst heq
      cases hkey.symm.trans hother
      exact ⟨.header, inner, rfl, fun _ _ hinner => hinner⟩
    · rw [hother]
      exact ⟨origin, found, rfl, fun _ _ hinner => hinner⟩

/-- A value that has been assigned stays under its keys. -/
theorem Grows.holds (hgrows : Grows kind es es') (h : es.Holds path v) : es'.Holds path v := by
  induction hgrows generalizing path v with
  | refl => exact h
  | trans _ _ first second => exact second (first h)
  | value hnew hv => exact h.concat _ _
  | table origin hnew => exact h.concat _ _
  | list hnew => exact h.concat _ _
  | inTable hkey _ ih =>
    refine h.put hkey (by simp) fun origin inner heq => ?_
    cases heq
    exact ⟨_, rfl, fun _ _ => ih⟩
  | inLast hkey _ ih => exact h.put hkey (by simp) (by simp)
  | item hkey => exact h.put hkey (by simp) (by simp)
  | header hkey => exact h.header hkey

theorem Holds.exists_mem_toTable {last : String} (h : es.Holds [key, last] v) :
    ∃ inner, (key, .table inner) ∈ es.toTable ∧ (last, v) ∈ inner := by
  obtain _ | ⟨hkey, hlast | ⟨_, hnone⟩⟩ := h
  · exact ⟨_, mem_toTable_of_get? hkey, mem_toTable_of_get? hlast⟩
  · cases hnone

end Entries

end PxeLaunch.Toml

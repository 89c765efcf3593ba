import PxeLaunch.Proofs.Result
import PxeLaunch.Proofs.Toml.Proper
import PxeLaunch.Toml.Decode

/-!
Reading records and maps from values. Main statements: what the fields of a record keep true of its
draft holds of the draft that is completed; a field under a key that is there once has its say
whatever stands before and after it; a map has each of its keys once.
-/

set_option autoImplicit false

namespace PxeLaunch.Toml

namespace Decode

/-! ### Records -/

namespace Shape

variable {δ α : Type} {shape : Shape δ α} {draft draft' : δ} {field : Field δ} {key : String}
  {v : Value} {table : Table}

theorem readTable_append (shape : Shape δ α) (draft : δ) (first second : Table) :
    shape.readTable draft (first ++ second) =
      (shape.readTable draft first).bind fun d => shape.readTable d second := by
  induction first generalizing draft with
  | nil => rfl
  | cons entry first ih =>
    obtain ⟨key, v⟩ := entry
    rw [List.cons_append, readTable, readTable]
    split
    · rename_i field hfield
      cases field.read v draft with
      | error e => rfl
      | ok d => exact ih d
    · split
      · rfl
      · exact ih draft

theorem readTable_of_read (hfield : shape.fields.find? (·.key == key) = some field)
    (hread : field.read v draft = .ok draft') :
    shape.readTable draft [(key, v)] = .ok draft' := by
  rw [readTable, hfield]
  dsimp only
  rw [hread]
  rfl

private theorem readTable_keeps {P : δ → Prop}
    (hfields : ∀ x ∈ table, ∀ field ∈ shape.fields, field.key = x.1 →
      ∀ d d', P d → field.read x.2 d = .ok d' → P d')
    (hdraft : P draft) (h : shape.readTable draft table = .ok draft') : P draft' := by
  induction table generalizing draft with
  | nil => exact Except.ok.inj h ▸ hdraft
  | cons entry rest ih =>
    obtain ⟨key, v⟩ := entry
    obtain ⟨hfirst, hfields⟩ := List.forall_mem_cons.mp hfields
    rw [readTable] at h
    split at h
    · next field hfield =>
      obtain ⟨next, hread, hrest⟩ := bind_eq_ok.mp h
      have hkey : field.key = key := by simpa using List.find?_some hfield
      exact ih hfields
        (hfirst field (List.mem_of_find?_eq_some hfield) hkey _ _ hdraft hread) hrest
    · split at h
      · cases h
      · exact ih hfields hdraft h

private theorem readArray_keeps {P : δ → Prop} {index : Nat} {fields : List (Field δ)}
    {items : List Value}
    (hfields : ∀ v ∈ items, ∀ field ∈ fields, ∀ d d', P d → field.read v d = .ok d' → P d')
    (hdraft : P draft) (h : shape.readArray draft index fields items = .ok draft') :
    P draft' := by
  induction fields generalizing draft index items with
  | nil => exact Except.ok.inj h ▸ hdraft
  | cons field fields ih =>
    cases items with
    | nil =>
      rw [readArray] at h
      split at h
      · exact ih (by simp) hdraft h
      · cases h
    | cons v rest =>
      obtain ⟨next, hread, hrest⟩ := bind_eq_ok.mp h
      refine ih (fun w hw other hother => ?_) (hfields v List.mem_cons_self field
        List.mem_cons_self _ _ hdraft hread) hrest
      exact hfields w (List.mem_cons_of_mem _ hw) other (List.mem_cons_of_mem _ hother)

/-- What holds of the blank draft and is kept by every field that reads a proper value holds of the
draft from which a record is completed. -/
theorem read_keeps {P : δ → Prop} {a : α} (hv : v.IsProper)
    (hfields : ∀ field ∈ shape.fields, ∀ v : Value, v.IsProper →
      ∀ d d', P d → field.read v d = .ok d' → P d')
    (hblank : P shape.blank) (h : shape.read v = .ok a) :
    ∃ d, P d ∧ shape.complete d = .ok a := by
  cases hv with
  | table hkeys hvalues =>
    obtain ⟨d, hread, hcomplete⟩ := bind_eq_ok.mp h
    exact ⟨d, readTable_keeps (fun x hx field hfield _ => hfields field hfield _ (hvalues x hx))
      hblank hread, hcomplete⟩
  | array hitems =>
    obtain ⟨d, hread, hcomplete⟩ := bind_eq_ok.mp h
    exact ⟨d, readArray_keeps (fun v hv field hfield => hfields field hfield v (hitems v hv))
      hblank hread, hcomplete⟩
  | datetime t =>
    obtain ⟨d, hread, hcomplete⟩ := bind_eq_ok.mp h
    refine ⟨d, readTable_keeps (fun x hx field hfield _ => ?_) hblank hread, hcomplete⟩
    obtain rfl := List.mem_singleton.mp hx
    exact hfields field hfield _ (.string _)
  | string s => cases h
  | integer n => cases h
  | float x => cases h
  | boolean b => cases h

/-- What a field makes true of a draft holds after a table with its key, if the table has the key
once and the other fields keep it. -/
theorem readTable_makes {P : δ → Prop} (hkeys : (table.map (·.1)).Nodup) (hmem : (key, v) ∈ table)
    (hfield : shape.fields.find? (·.key == key) = some field)
    (hmakes : ∀ d d', field.read v d = .ok d' → P d')
    (hothers : ∀ other ∈ shape.fields, other.key ≠ key →
      ∀ w d d', P d → other.read w d = .ok d' → P d')
    (h : shape.readTable draft table = .ok draft') : P draft' := by
  obtain ⟨front, rest, rfl⟩ := List.append_of_mem hmem
  rw [readTable_append] at h
  obtain ⟨before, -, h⟩ := bind_eq_ok.mp h
  rw [readTable, hfield] at h
  obtain ⟨after, hread, hrest⟩ := bind_eq_ok.mp h
  refine readTable_keeps (fun x hx other hother hkey => ?_) (hmakes _ _ hread) hrest
  refine hothers other hother (fun heq => ?_) x.2
  rw [List.map_append, List.map_cons] at hkeys
  have hnot := (List.nodup_cons.mp (List.nodup_append.mp hkeys).2.1).1
  exact hnot (List.mem_map.mpr ⟨x, hx, hkey.symm.trans heq⟩)

end Shape

/-! ### Maps -/

variable {α : Type} {read : Value → Result α} {entries : List (String × α)}

private theorem map_fst_of_values {table : Table} (h : values read table = .ok entries) :
    entries.map (·.1) = table.map (·.1) := by
  induction table generalizing entries with
  | nil => exact Except.ok.inj h ▸ rfl
  | cons entry rest ih =>
    obtain ⟨key, v⟩ := entry
    obtain ⟨a, -, h⟩ := bind_eq_ok.mp h
    obtain ⟨as, has, h⟩ := bind_eq_ok.mp h
    rw [← pure_eq_ok.mp h, List.map_cons, List.map_cons, ih has]

theorem nodup_keys_of_map {v : Value} (hv : v.IsProper) (h : map read v = .ok entries) :
    (entries.map (·.1)).Nodup := by
  cases hv with
  | table hkeys _ =>
    rw [map_fst_of_values h]
    exact hkeys
  | datetime d =>
    rw [map_fst_of_values h]
    exact List.nodup_singleton _
  | string s => cases h
  | integer n => cases h
  | float x => cases h
  | boolean b => cases h
  | array _ => cases h

end Decode

/-! ### Documents -/

theorem decode_eq_ok {δ α : Type} {shape : Decode.Shape δ α} {text : String}
    {a : α} : decode shape text = .ok a ↔
      ∃ table, Document.parse? text = some table ∧ shape.read (.table table) = .ok a := by
  rw [decode]
  cases Document.parse? text with
  | none => simp
  | some table =>
    cases hread : shape.read (.table table) <;> simp [hread]

end PxeLaunch.Toml

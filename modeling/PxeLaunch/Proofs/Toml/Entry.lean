import Mathlib.Data.List.Nodup
import PxeLaunch.Toml.Entry

/-!
Tables while a document is read: what stands under a key once others have been put in, changed or
removed.
-/

set_option autoImplicit false

namespace PxeLaunch.Toml

namespace Entries

variable {es front : Entries} {key other : String} {e : Entry}

theorem get?_eq_none_iff : es.get? key = none ↔ key ∉ es.map (·.1) := by
  simp only [get?, List.lookup_eq_none_iff, List.mem_map, not_exists, not_and, bne_iff_ne]
  exact ⟨fun h x hx heq => h x hx heq.symm, fun h x hx heq => h x hx heq.symm⟩

private theorem get?_cons (k : String) (e : Entry) (es : Entries) (other : String) :
    get? ((k, e) :: es) other = if other = k then some e else es.get? other := by
  rw [get?, List.lookup_cons]
  by_cases h : other = k
  · simp [h]
  · rw [beq_false_of_ne h, if_neg h, get?]

theorem get?_concat (es : Entries) (key : String) (e : Entry) (other : String) :
    get? (es ++ [(key, e)]) other =
      (es.get? other).or (if other = key then some e else none) := by
  rw [get?, List.lookup_append]
  congr 1
  rw [← get?, get?_cons]
  rfl

theorem get?_concat_self (h : es.get? key = none) (e : Entry) :
    get? (es ++ [(key, e)]) key = some e := by
  rw [get?_concat, h, if_pos rfl]
  rfl

theorem get?_put (es : Entries) (key : String) (e : Entry) (other : String) :
    get? (es.put key e) other = if other = key then some e else es.get? other := by
  induction es with
  | nil => exact get?_cons key e [] other
  | cons x es ih =>
    obtain ⟨k, old⟩ := x
    rw [put]
    split
    · next heq =>
      rw [heq, get?_cons, get?_cons]
      split <;> rfl
    · next hne =>
      rw [get?_cons, get?_cons, ih]
      grind

theorem get?_remove (es : Entries) (key other : String) :
    get? (es.remove key) other = if other = key then none else es.get? other := by
  induction es with
  | nil => simp [remove, get?]
  | cons x es ih =>
    obtain ⟨k, old⟩ := x
    rw [remove] at ih ⊢
    by_cases hk : k = key
    · rw [List.filter_cons_of_neg (by simp [hk]), ih, get?_cons, hk]
      grind
    · rw [List.filter_cons_of_pos (by simp [hk]), get?_cons, get?_cons, ih]
      grind

theorem put_concat (h : es.get? key = none) (old e : Entry) :
    put key e (es ++ [(key, old)]) = es ++ [(key, e)] := by
  induction es with
  | nil => simp [put]
  | cons x es ih =>
    obtain ⟨k, found⟩ := x
    rw [get?_cons] at h
    split at h
    · cases h
    · next hne => simp [put, Ne.symm hne, ih h]

theorem map_fst_put {old : Entry} (h : es.get? key = some old) (e : Entry) :
    (es.put key e).map (·.1) = es.map (·.1) := by
  induction es with
  | nil => cases h
  | cons x es ih =>
    obtain ⟨k, found⟩ := x
    rw [put]
    split
    · rfl
    · next hne =>
      rw [get?_cons, if_neg (Ne.symm hne)] at h
      simp [ih h]

theorem mem_put {x : String × Entry} (h : x ∈ es.put key e) : x = (key, e) ∨ x ∈ es := by
  induction es with
  | nil => simpa [put] using h
  | cons y es ih =>
    obtain ⟨k, old⟩ := y
    rw [put] at h
    split at h
    · next heq =>
      subst heq
      rcases List.mem_cons.mp h with rfl | h
      · exact .inl rfl
      · exact .inr (List.mem_cons_of_mem _ h)
    · rcases List.mem_cons.mp h with rfl | h
      · exact .inr List.mem_cons_self
      · exact (ih h).imp_right (List.mem_cons_of_mem _)

theorem mem_of_get? (h : es.get? key = some e) : (key, e) ∈ es := by
  obtain ⟨front, rest, rfl, -⟩ := List.lookup_eq_some_iff.mp h
  simp

theorem changeLast_concat (f : Entries → Option Entries) (items : List Entries)
    (last : Entries) : changeLast f (items ++ [last]) = (f last).map fun es => items ++ [es] := by
  induction items with
  | nil => rfl
  | cons es items ih =>
    obtain ⟨next, rest, hrest⟩ : ∃ next rest, items ++ [last] = next :: rest :=
      List.exists_cons_of_ne_nil (by simp)
    rw [List.cons_append, hrest, changeLast, ← hrest, ih, Option.map_map]
    · rfl
    · exact List.cons_ne_nil next rest

theorem changeLast_eq_some {f : Entries → Option Entries} {items items' : List Entries}
    (h : changeLast f items = some items') :
    ∃ others last last', items = others ++ [last] ∧ f last = some last' ∧
      items' = others ++ [last'] := by
  rcases List.eq_nil_or_concat items with rfl | ⟨others, last, rfl⟩
  · cases h
  · rw [List.concat_eq_append, changeLast_concat, Option.map_eq_some_iff] at h
    obtain ⟨last', hlast, rfl⟩ := h
    exact ⟨others, last, last', List.concat_eq_append, hlast, rfl⟩

end Entries

/-! ### Values of entries -/

theorem entriesToTable_eq_map (es : Entries) :
    entriesToTable es = es.map fun (key, e) => (key, e.toValue) := by
  induction es with
  | nil => rfl
  | cons entry es ih =>
    obtain ⟨key, e⟩ := entry
    rw [entriesToTable, ih]
    rfl

theorem itemsToValues_eq_map (items : List Entries) :
    itemsToValues items = items.map fun es => .table (entriesToTable es) := by
  induction items with
  | nil => rfl
  | cons es items ih =>
    rw [itemsToValues, ih]
    rfl

theorem Entries.map_fst_toTable (es : Entries) : es.toTable.map (·.1) = es.map (·.1) := by
  rw [toTable, entriesToTable_eq_map, List.map_map]
  rfl

theorem Entries.mem_toTable_of_get? {es : Entries} {key : String} {e : Entry}
    (h : es.get? key = some e) : (key, e.toValue) ∈ es.toTable := by
  rw [toTable, entriesToTable_eq_map]
  exact List.mem_map_of_mem (mem_of_get? h)

end PxeLaunch.Toml

import PxeLaunch.Proofs.Toml.Growth

/-!
Keys are distinct. Main statement: no table of a document has a key twice, whether it has a header,
is made by dotted keys or stands inside a value.
-/

set_option autoImplicit false

namespace PxeLaunch.Toml

/-- Whether no table in a value has a key twice. -/
inductive Value.IsProper : Value → Prop
  | string (s : String) : IsProper (.string s)
  | integer (n : Int) : IsProper (.integer n)
  | float (x : Binary64) : IsProper (.float x)
  | boolean (b : Bool) : IsProper (.boolean b)
  | datetime (d : Datetime) : IsProper (.datetime d)
  | array {form : ArrayForm} {items : List Value} (hitems : ∀ v ∈ items, IsProper v) :
      IsProper (.array form items)
  | table {entries : Table} (hkeys : (entries.map (·.1)).Nodup)
      (hvalues : ∀ x ∈ entries, IsProper x.2) : IsProper (.table entries)

def Entries.IsProper (es : Entries) : Prop := (Value.table es.toTable).IsProper

namespace Entries

variable {kind : Value → Prop} {es es' : Entries} {key : String} {e : Entry}

private theorem isProper_iff :
    es.IsProper ↔ (es.map (·.1)).Nodup ∧ ∀ x ∈ es, x.2.toValue.IsProper := by
  have hvalues : (∀ x ∈ es.toTable, x.2.IsProper) ↔ ∀ x ∈ es, x.2.toValue.IsProper := by
    rw [toTable, entriesToTable_eq_map, List.forall_mem_map]
  rw [← hvalues, ← map_fst_toTable]
  constructor
  · rintro (_ | _ | _ | _ | _ | _ | ⟨hkeys, hvalues⟩)
    exact ⟨hkeys, hvalues⟩
  · rintro ⟨hkeys, hvalues⟩
    exact .table hkeys hvalues

private theorem isProper_nil : IsProper [] := isProper_iff.mpr ⟨.nil, by simp⟩

private theorem IsProper.of_get? (h : es.IsProper) (hkey : es.get? key = some e) :
    e.toValue.IsProper :=
  (isProper_iff.mp h).2 _ (mem_of_get? hkey)

private theorem IsProper.concat (h : es.IsProper) (hnew : es.get? key = none)
    (he : e.toValue.IsProper) : IsProper (es ++ [(key, e)]) := by
  obtain ⟨hkeys, hvalues⟩ := isProper_iff.mp h
  rw [isProper_iff, List.map_append, List.forall_mem_append]
  refine ⟨hkeys.append (List.nodup_singleton _) ?_, hvalues, by simpa using he⟩
  simpa using get?_eq_none_iff.mp hnew

private theorem IsProper.put (h : es.IsProper) {old : Entry} (hkey : es.get? key = some old)
    (he : e.toValue.IsProper) : IsProper (es.put key e) := by
  obtain ⟨hkeys, hvalues⟩ := isProper_iff.mp h
  rw [isProper_iff, map_fst_put hkey]
  refine ⟨hkeys, fun x hx => ?_⟩
  rcases mem_put hx with rfl | hx
  · exact he
  · exact hvalues x hx

private theorem IsProper.remove (h : es.IsProper) (key : String) : IsProper (es.remove key) := by
  obtain ⟨hkeys, hvalues⟩ := isProper_iff.mp h
  have hsub : (es.remove key).Sublist es := List.filter_sublist
  exact isProper_iff.mpr ⟨hkeys.sublist (hsub.map _), fun x hx => hvalues x (hsub.subset hx)⟩

private theorem isProper_toValue_tables {items : List Entries} :
    (Entry.tables items).toValue.IsProper ↔ ∀ es ∈ items, es.IsProper := by
  rw [Entry.toValue, itemsToValues_eq_map]
  constructor
  · rintro (_ | _ | _ | _ | _ | hitems | _)
    exact fun es hes => hitems _ (List.mem_map_of_mem hes)
  · exact fun h => .array (List.forall_mem_map.mpr h)

private theorem Grows.isProper (hgrows : Grows Value.IsProper es es') (h : es.IsProper) :
    es'.IsProper := by
  induction hgrows with
  | refl => exact h
  | trans _ _ first second => exact second (first h)
  | value hnew hv => exact h.concat hnew hv
  | table origin hnew => exact h.concat hnew isProper_nil
  | list hnew => exact h.concat hnew (isProper_toValue_tables.mpr (by simpa using isProper_nil))
  | inTable hkey _ ih => exact h.put hkey (ih (h.of_get? hkey))
  | inLast hkey _ ih =>
    have hitems := isProper_toValue_tables.mp (h.of_get? hkey)
    refine h.put hkey (isProper_toValue_tables.mpr ?_)
    rw [List.forall_mem_append, List.forall_mem_singleton] at hitems ⊢
    exact ⟨hitems.1, ih hitems.2⟩
  | item hkey =>
    have hitems := isProper_toValue_tables.mp (h.of_get? hkey)
    refine h.put hkey (isProper_toValue_tables.mpr ?_)
    rw [List.forall_mem_append, List.forall_mem_singleton]
    exact ⟨hitems, isProper_nil⟩
  | header hkey =>
    have hinner := h.of_get? hkey
    refine (h.remove _).concat ?_ hinner
    rw [get?_remove, if_pos rfl]

end Entries

/-! ### Reading -/

private theorem Scalar.isProper_of_value? {cs : List Char} {v : Value}
    (h : Scalar.value? cs = some v) : v.IsProper := by
  unfold Scalar.value? at h
  split at h
  · obtain rfl := Option.some.inj h
    exact .boolean true
  split at h
  · obtain rfl := Option.some.inj h
    exact .boolean false
  split at h
  · obtain rfl := Option.some.inj h
    exact .datetime _
  split at h
  · obtain rfl := Option.some.inj h
    exact .integer _
  · obtain ⟨x, -, rfl⟩ := Option.map_eq_some_iff.mp h
    exact .float x

private theorem Scalar.isProper_of_read? {cs rest : List Char} {v : Value}
    (h : Scalar.read? cs = some (v, rest)) : v.IsProper := by
  have hmap {run rest' : List Char}
      (h : (Scalar.value? run).map (fun v => (v, rest')) = some (v, rest)) : v.IsProper := by
    obtain ⟨w, hw, heq⟩ := Option.map_eq_some_iff.mp h
    cases heq
    exact isProper_of_value? hw
  unfold Scalar.read? at h
  dsimp only at h
  split at h
  · split at h
    · exact hmap h
    · exact hmap h
  · exact hmap h

namespace Statement

private theorem isProper_of_read (fuel : Nat) :
    (∀ depth cs v rest, value fuel depth cs = some (v, rest) → v.IsProper) ∧
      (∀ depth found cs v rest, (∀ u ∈ found, u.IsProper) →
        elements fuel depth found cs = some (v, rest) → v.IsProper) ∧
      ∀ depth found cs v rest, Entries.IsProper found →
        pairs fuel depth found cs = some (v, rest) → v.IsProper := by
  induction fuel with
  | zero =>
    refine ⟨fun depth cs v rest h => ?_, fun depth found cs v rest _ h => ?_,
      fun depth found cs v rest _ h => ?_⟩
    · simp [value] at h
    · simp [elements] at h
    · simp [pairs] at h
  | succ fuel ih =>
    obtain ⟨hvalue, helements, hpairs⟩ := ih
    refine ⟨fun depth cs v rest h => ?_, fun depth found cs v rest hfound h => ?_,
      fun depth found cs v rest hfound h => ?_⟩
    · unfold value at h
      split at h
      · obtain ⟨s, -, heq⟩ := Option.map_eq_some_iff.mp h
        cases heq
        exact .string _
      · obtain ⟨s, -, heq⟩ := Option.map_eq_some_iff.mp h
        cases heq
        exact .string _
      · split at h
        · split at h
          · exact helements _ _ _ _ _ (by simp) h
          · cases h
        · cases h
      · split at h
        · split at h
          · cases h
            exact .table .nil (by simp)
          · exact hpairs _ _ _ _ _ Entries.isProper_nil h
        · cases h
      · exact Scalar.isProper_of_read? h
    · have harray (found : List Value) (hfound : ∀ u ∈ found, u.IsProper) :
          (Value.array .bracketed found.reverse).IsProper :=
        .array (by simpa using hfound)
      unfold elements at h
      split at h
      · cases h
        exact harray found hfound
      · split at h
        · cases h
        next hread =>
        have hmore := List.forall_mem_cons.mpr ⟨hvalue _ _ _ _ hread, hfound⟩
        split at h
        · split at h
          · exact helements _ _ _ _ _ hmore h
          · cases h
        · cases h
          exact harray _ hmore
        · cases h
    · unfold pairs at h
      split at h
      · split at h
        · cases h
        next hread =>
        split at h
        · cases h
        next hassign =>
        have hentries :=
          (Entries.grows_assign (hvalue _ _ _ _ hread) hassign).isProper hfound
        split at h
        · exact hpairs _ _ _ _ _ hentries h
        · cases h
          exact hentries
        · cases h
      · cases h

theorem exists_readFrom_eq {found statements : List Statement} {fuel : Nat} {cs : List Char}
    (h : readFrom found fuel cs = some statements) :
    ∃ more, statements = found.reverse ++ more ∧
      ∀ path v, .assignment path v ∈ more → v.IsProper := by
  induction fuel generalizing found cs with
  | zero => cases h
  | succ fuel ih =>
    have hnext {statement : Statement} {cs : List Char}
        (hproper : ∀ path v, .assignment path v = statement → v.IsProper)
        (h : readFrom (statement :: found) fuel cs = some statements) :
        ∃ more, statements = found.reverse ++ more ∧
          ∀ path v, .assignment path v ∈ more → v.IsProper := by
      obtain ⟨more, rfl, hmore⟩ := ih h
      refine ⟨statement :: more, by simp, fun path v hmem => ?_⟩
      exact (List.mem_cons.mp hmem).elim (hproper path v) (hmore path v)
    unfold readFrom at h
    split at h
    · cases h
    · cases h
      exact ⟨[], by simp, by simp⟩
    · split at h
      · split at h
        · exact hnext (by simp) h
        · cases h
      · cases h
    · split at h
      · split at h
        · exact hnext (by simp) h
        · cases h
      · cases h
    · split at h
      · split at h
        · cases h
        next hread =>
        split at h
        · refine hnext (fun path v heq => ?_) h
          cases heq
          exact (isProper_of_read _).1 _ _ _ _ hread
        · cases h
      · cases h

end Statement

/-- No table of a document has a key twice. -/
theorem Document.isProper_of_parse? {text : String} {table : Table}
    (h : Document.parse? text = some table) : (Value.table table).IsProper := by
  obtain ⟨statements, stop, hread, hrun, rfl⟩ := Document.parse?_eq_some.mp h
  obtain ⟨more, hmore, hproper⟩ := Statement.exists_readFrom_eq hread
  obtain rfl : statements = more := by simpa using hmore
  exact (Document.grows_run hproper hrun).isProper Entries.isProper_nil

end PxeLaunch.Toml

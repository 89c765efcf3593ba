import PxeLaunch.Proofs.Toml.Entry
import PxeLaunch.Proofs.Toml.Line

/-!
Layouts of documents: fields, and then tables and lists of tables that have names. Main statement: a
document that is written in a layout holds the table that the layout describes.
-/

set_option autoImplicit false

namespace PxeLaunch.Toml

abbrev Fields := List (BareKey × Plain)

namespace Fields

def keys (fs : Fields) : List String := fs.map fun (key, _) => key.text

def lines (fs : Fields) : List Line := fs.map fun (key, v) => .assignment key v

def entries (fs : Fields) : Entries := fs.map fun (key, v) => (key.text, .value v.value)

def table (fs : Fields) : Table := fs.map fun (key, v) => (key.text, v.value)

@[simp]
theorem lines_nil : lines [] = [] := rfl

@[simp]
theorem lines_cons (key : BareKey) (v : Plain) (fs : Fields) :
    lines ((key, v) :: fs) = .assignment key v :: lines fs := rfl

@[simp]
theorem lines_append (first second : Fields) :
    lines (first ++ second) = lines first ++ lines second := List.map_append

@[simp]
theorem table_append (first second : Fields) :
    table (first ++ second) = table first ++ table second := List.map_append

end Fields

/-- A part of a document under a name: a table, or a list of tables, of which there is a first. -/
inductive Block where
  | table (key : BareKey) (fields : Fields)
  | list (key : BareKey) (first : Fields) (others : List Fields)

namespace Block

def key : Block → BareKey
  | .table key _ => key
  | .list key _ _ => key

def parts : Block → List Fields
  | .table _ fields => [fields]
  | .list _ first others => first :: others

def lines : Block → List Line
  | .table key fields => .header key :: fields.lines
  | .list key first others =>
    (first :: others).flatMap fun fields => .arrayHeader key :: fields.lines

/-- What stands under the name of a block once its lines have been carried out. -/
def entry : Block → Entry
  | .table _ fields => .table .header fields.entries
  | .list _ first others => .tables ((first :: others).map Fields.entries)

def value : Block → Value
  | .table _ fields => .table fields.table
  | .list _ first others => .array .headed ((first :: others).map fun fields => .table fields.table)

end Block

/-- A layout of a document. No key is used twice in a table. -/
structure Layout where
  fields : Fields
  blocks : List Block
  nodup_keys : (fields.keys ++ blocks.map fun b => b.key.text).Nodup
  nodup_parts : ∀ b ∈ blocks, ∀ fs ∈ b.parts, fs.keys.Nodup

namespace Layout

def lines (l : Layout) : List Line := l.fields.lines ++ l.blocks.flatMap Block.lines

def text (l : Layout) : String := String.ofList (l.lines.flatMap Line.chars)

def table (l : Layout) : Table :=
  l.fields.table ++ l.blocks.map fun b => (b.key.text, b.value)

end Layout

/-! ### Places -/

namespace Entries

variable {front : Entries} {key : String}

/-- The table at the end of a path is `inner` whenever the document is `place inner`. -/
private def IsPlace (path : List String) (place : Entries → Entries) : Prop :=
  ∀ f inner, descend f path (place inner) = (f inner).map place

private theorem isPlace_root : IsPlace [] id := by
  intro f inner
  simp [descend]

private theorem isPlace_table (h : key ∉ front.map (·.1)) (origin : Origin) :
    IsPlace [key] fun inner => front ++ [(key, .table origin inner)] := by
  intro f inner
  have hnew := get?_eq_none_iff.mpr h
  simp [descend, get?_concat_self hnew, put_concat hnew]

private theorem isPlace_item (h : key ∉ front.map (·.1)) (items : List Entries) :
    IsPlace [key] fun inner => front ++ [(key, .tables (items ++ [inner]))] := by
  intro f inner
  have hnew := get?_eq_none_iff.mpr h
  simp [descend, get?_concat_self hnew, put_concat hnew, changeLast_concat, Function.comp_def]

private theorem assign_of_not_mem (h : key ∉ front.map (·.1)) (v : Value) :
    front.assign [key] v = some (front ++ [(key, .value v)]) := by
  rw [assign, insertNew, get?_eq_none_iff.mpr h]

end Entries

/-! ### Runs -/

namespace Document

open Entries (IsPlace)

private theorem run_append (s : State) (first second : List Statement) :
    run s (first ++ second) = (run s first).bind (run · second) := by
  induction first generalizing s with
  | nil => rfl
  | cons statement first ih =>
    rw [List.cons_append, run, run]
    cases step s statement with
    | none => rfl
    | some next => exact ih next

private theorem run_cons {s next : State} {statement : Statement}
    (h : step s statement = some next) (rest : List Statement) :
    run s (statement :: rest) = run next rest := by
  rw [run, h]
  rfl

private theorem run_fields {path : List String} {place : Entries → Entries}
    (hplace : IsPlace path place) (fs : Fields) (inner : Entries)
    (hkeys : (inner.map (·.1) ++ fs.keys).Nodup) :
    run ⟨place inner, path⟩ (fs.lines.map Line.statement) =
      some ⟨place (inner ++ fs.entries), path⟩ := by
  induction fs generalizing inner with
  | nil => simp [Fields.lines, Fields.entries, run]
  | cons field fs ih =>
    obtain ⟨key, v⟩ := field
    have hnew : key.text ∉ inner.map (·.1) := by
      intro hmem
      exact (List.nodup_append.1 hkeys).2.2 _ hmem _ List.mem_cons_self rfl
    have hstep : step ⟨place inner, path⟩ (.assignment [key.text] v.value) =
        some ⟨place (inner ++ [(key.text, .value v.value)]), path⟩ := by
      rw [step, hplace, Entries.assign_of_not_mem hnew]
      rfl
    have hrest :
        ((inner ++ [(key.text, Entry.value v.value)]).map (·.1) ++ Fields.keys fs).Nodup := by
      simpa [Fields.keys] using hkeys
    have hrun := ih _ hrest
    rw [List.append_assoc] at hrun
    exact (run_cons hstep _).trans hrun

private theorem step_header {es : Entries} {path : List String} {key : String}
    (h : key ∉ es.map (·.1)) :
    step ⟨es, path⟩ (.header [key]) = some ⟨es ++ [(key, .table .header [])], [key]⟩ := by
  simp [step, splitLast, Entries.descend, Entries.openTable, Entries.get?_eq_none_iff.mpr h]

private theorem step_first_arrayHeader {es : Entries} {path : List String} {key : String}
    (h : key ∉ es.map (·.1)) :
    step ⟨es, path⟩ (.arrayHeader [key]) = some ⟨es ++ [(key, .tables [[]])], [key]⟩ := by
  simp [step, splitLast, Entries.descend, Entries.openItem, Entries.get?_eq_none_iff.mpr h]

private theorem step_next_arrayHeader {es : Entries} {path : List String} {key : String}
    (h : key ∉ es.map (·.1)) (items : List Entries) :
    step ⟨es ++ [(key, .tables items)], path⟩ (.arrayHeader [key]) =
      some ⟨es ++ [(key, .tables (items ++ [[]]))], [key]⟩ := by
  have hnew := Entries.get?_eq_none_iff.mpr h
  simp [step, splitLast, Entries.descend, Entries.openItem, Entries.get?_concat_self hnew,
    Entries.put_concat hnew]

private theorem run_table {es : Entries} (path : List String) {key : BareKey} {fs : Fields}
    (hkey : key.text ∉ es.map (·.1)) (hfs : fs.keys.Nodup) :
    run ⟨es, path⟩ ((Block.table key fs).lines.map Line.statement) =
      some ⟨es ++ [(key.text, (Block.table key fs).entry)], [key.text]⟩ := by
  have hfields := run_fields (Entries.isPlace_table hkey .header) fs [] hfs
  exact (run_cons (step_header hkey) _).trans hfields

private theorem run_items {es : Entries} (path : List String) {key : BareKey}
    (hkey : key.text ∉ es.map (·.1)) (items : List Entries) (others : List Fields)
    (hothers : ∀ fs ∈ others, fs.keys.Nodup) :
    ∃ path', run ⟨es ++ [(key.text, .tables items)], path⟩
        ((others.flatMap fun fs => .arrayHeader key :: fs.lines).map Line.statement) =
      some ⟨es ++ [(key.text, .tables (items ++ others.map Fields.entries))], path'⟩ := by
  induction others generalizing items path with
  | nil => exact ⟨path, by simp [run]⟩
  | cons fs others ih =>
    have hfields := run_fields (Entries.isPlace_item hkey items) fs []
      (hothers fs List.mem_cons_self)
    obtain ⟨path', hrest⟩ := ih [key.text] (items ++ [fs.entries])
      (fun fs hfs => hothers fs (List.mem_cons_of_mem _ hfs))
    refine ⟨path', ?_⟩
    have hitem : run ⟨es ++ [(key.text, .tables items)], path⟩
        ((Line.arrayHeader key :: fs.lines).map Line.statement) =
        some ⟨es ++ [(key.text, .tables (items ++ [fs.entries]))], [key.text]⟩ :=
      (run_cons (step_next_arrayHeader hkey items) _).trans hfields
    rw [List.flatMap_cons, List.map_append, run_append, hitem]
    simpa using hrest

private theorem run_list {es : Entries} (path : List String) {key : BareKey} {first : Fields}
    {others : List Fields} (hkey : key.text ∉ es.map (·.1))
    (hparts : ∀ fs ∈ first :: others, fs.keys.Nodup) :
    ∃ path', run ⟨es, path⟩ ((Block.list key first others).lines.map Line.statement) =
      some ⟨es ++ [(key.text, (Block.list key first others).entry)], path'⟩ := by
  have hfields := run_fields (Entries.isPlace_item hkey []) first []
    (hparts first List.mem_cons_self)
  obtain ⟨path', hrest⟩ := run_items [key.text] hkey [first.entries] others
    (fun fs hfs => hparts fs (List.mem_cons_of_mem _ hfs))
  refine ⟨path', ?_⟩
  have hfirst : run ⟨es, path⟩ ((Line.arrayHeader key :: first.lines).map Line.statement) =
      some ⟨es ++ [(key.text, .tables [first.entries])], [key.text]⟩ :=
    (run_cons (step_first_arrayHeader hkey) _).trans hfields
  rw [Block.lines, List.flatMap_cons, List.map_append, run_append, hfirst]
  exact hrest

private theorem run_block {es : Entries} (path : List String) {block : Block}
    (hkey : block.key.text ∉ es.map (·.1)) (hparts : ∀ fs ∈ block.parts, fs.keys.Nodup) :
    ∃ path', run ⟨es, path⟩ (block.lines.map Line.statement) =
      some ⟨es ++ [(block.key.text, block.entry)], path'⟩ := by
  cases block with
  | table key fields => exact ⟨[key.text], run_table path hkey (hparts fields List.mem_cons_self)⟩
  | list key first others => exact run_list path hkey hparts

private theorem run_blocks {es : Entries} (path : List String) (blocks : List Block)
    (hkeys : (es.map (·.1) ++ blocks.map fun b => b.key.text).Nodup)
    (hparts : ∀ b ∈ blocks, ∀ fs ∈ b.parts, fs.keys.Nodup) :
    ∃ path', run ⟨es, path⟩ ((blocks.flatMap Block.lines).map Line.statement) =
      some ⟨es ++ blocks.map fun b => (b.key.text, b.entry), path'⟩ := by
  induction blocks generalizing es path with
  | nil => exact ⟨path, by simp [run]⟩
  | cons block blocks ih =>
    have hnew : block.key.text ∉ es.map (·.1) := by
      intro hmem
      exact (List.nodup_append.1 hkeys).2.2 _ hmem _ List.mem_cons_self rfl
    obtain ⟨path₁, hblock⟩ := run_block path hnew (hparts block List.mem_cons_self)
    have hrest : ((es ++ [(block.key.text, block.entry)]).map (·.1) ++
        blocks.map fun b => b.key.text).Nodup := by
      simpa using hkeys
    obtain ⟨path₂, hblocks⟩ := ih path₁ hrest (fun b hb => hparts b (List.mem_cons_of_mem _ hb))
    refine ⟨path₂, ?_⟩
    rw [List.flatMap_cons, List.map_append, run_append, hblock]
    simpa using hblocks

/-! ### Tables -/

private theorem entriesToTable_entries (fs : Fields) : entriesToTable fs.entries = fs.table := by
  simp [entriesToTable_eq_map, Fields.entries, Fields.table, Entry.toValue]

private theorem toValue_entry (block : Block) : block.entry.toValue = block.value := by
  cases block with
  | table key fields => simp [Block.entry, Block.value, Entry.toValue, entriesToTable_entries]
  | list key first others =>
    simp [Block.entry, Block.value, Entry.toValue, itemsToValues_eq_map, entriesToTable_entries]

/-- A document that is written in a layout holds the table that the layout describes. -/
theorem parse?_text (l : Layout) : parse? l.text = some l.table := by
  have hstatements : Statement.read? l.text.toList = some (l.lines.map Line.statement) := by
    rw [Layout.text, String.toList_ofList]
    exact Statement.read?_lines l.lines
  have hkeys := l.nodup_keys
  have hfields : run ⟨[], []⟩ (l.fields.lines.map Line.statement) = some ⟨l.fields.entries, []⟩ :=
    run_fields Entries.isPlace_root l.fields [] (List.nodup_append.1 hkeys).1
  have hentries : (l.fields.entries).map (·.1) = l.fields.keys := by
    simp [Fields.entries, Fields.keys]
  obtain ⟨path, hblocks⟩ := run_blocks [] l.blocks (hentries ▸ hkeys) l.nodup_parts
  have hrun : run ⟨[], []⟩ (l.lines.map Line.statement) =
      some ⟨l.fields.entries ++ l.blocks.map fun b => (b.key.text, b.entry), path⟩ := by
    rw [Layout.lines, List.map_append, run_append, hfields]
    exact hblocks
  have htable : entriesToTable (l.fields.entries ++ l.blocks.map fun b => (b.key.text, b.entry)) =
      l.table := by
    rw [entriesToTable_eq_map, List.map_append, ← entriesToTable_eq_map, entriesToTable_entries]
    simp [Layout.table, toValue_entry]
  rw [parse?, hstatements]
  simp [hrun, Entries.toTable, htable]

end Document

end PxeLaunch.Toml

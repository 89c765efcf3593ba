import Mathlib.Data.List.Chain
import Mathlib.Data.List.Induction
import PxeLaunch.Proofs.Noise.Signal

/-!
Where chunks end. A boundary is due after a newline, after as many bytes as a line may have, and at
a pause with something pending. Main statement: the chunks of a stream are its signals cut wherever
a boundary is due and nowhere else, apart from what is pending at the end.
-/

set_option autoImplicit false

namespace PxeLaunch.Noise

/-! ### Boundaries -/

/-- Whether a boundary is due right after signals that begin at the boundary before. -/
def IsDue (s : List Signal) : Prop :=
  s.getLast? = some (.byte Bytes.newline) ∨ (Signal.bytes s).length = maxLine ∨
    s.getLast? = some .pause ∧ Signal.bytes s ≠ []

def IsOpen (s : List Signal) : Prop := ∀ t, t <+: s → ¬ IsDue t

/-- Signals between two boundaries: one is due at their end and none before. -/
structure IsPiece (s : List Signal) : Prop where
  due : IsDue s
  first : ∀ t, t <+: s → IsDue t → t = s

/-- Byte strings are the cuts of signals if they are the bytes of pieces that make up the signals.
What is left after the last boundary counts, unless it is empty, if the stream is complete. -/
def AreCutsOf (complete : Bool) (s : List Signal) (cuts : List Bytes) : Prop :=
  ∃ (pieces : List (List Signal)) (pending : List Signal),
    s = pieces.flatten ++ pending ∧ (∀ p ∈ pieces, IsPiece p) ∧ IsOpen pending ∧
      cuts = pieces.map Signal.bytes ++
        (if complete && !(Signal.bytes pending).isEmpty then [Signal.bytes pending] else [])

private theorem not_isDue_nil : ¬ IsDue [] := by
  simp [IsDue, Signal.bytes, maxLine]

private theorem isOpen_nil : IsOpen [] := by
  intro t ht
  rw [List.prefix_nil.mp ht]
  exact not_isDue_nil

private theorem isOpen_concat {s : List Signal} {x : Signal} :
    IsOpen (s ++ [x]) ↔ IsOpen s ∧ ¬ IsDue (s ++ [x]) := by
  constructor
  · intro h
    refine ⟨fun t ht => h t (ht.trans (List.prefix_append s [x])), h _ (List.prefix_refl _)⟩
  · rintro ⟨hopen, hdue⟩ t ht
    rcases List.prefix_concat_iff.mp ht with rfl | ht
    · exact hdue
    · exact hopen t ht

private theorem isPiece_concat {s : List Signal} {x : Signal} :
    IsPiece (s ++ [x]) ↔ IsOpen s ∧ IsDue (s ++ [x]) := by
  constructor
  · rintro ⟨hdue, hfirst⟩
    refine ⟨fun t ht hbad => ?_, hdue⟩
    have heq := hfirst t (ht.trans (List.prefix_append s [x])) hbad
    have hle := ht.length_le
    simp only [heq, List.length_append, List.length_singleton] at hle
    omega
  · rintro ⟨hopen, hdue⟩
    refine ⟨hdue, fun t ht hbad => ?_⟩
    rcases List.prefix_concat_iff.mp ht with rfl | ht
    · rfl
    · exact absurd hbad (hopen t ht)

private theorem isDue_concat_byte {s : List Signal} {b : UInt8} :
    IsDue (s ++ [.byte b]) ↔ b = Bytes.newline ∨ (Signal.bytes s).length + 1 = maxLine := by
  simp [IsDue, Signal.bytes]

private theorem isDue_concat_pause {s : List Signal} (hopen : IsOpen s) :
    IsDue (s ++ [.pause]) ↔ Signal.bytes s ≠ [] := by
  have hshort : (Signal.bytes s).length ≠ maxLine := fun h =>
    hopen s (List.prefix_refl s) (.inr (.inl h))
  simp [IsDue, Signal.bytes, hshort]

private theorem IsOpen.bytes {s : List Signal} (hopen : IsOpen s) :
    Bytes.newline ∉ Signal.bytes s ∧ (Signal.bytes s).length < maxLine := by
  induction s using List.reverseRecOn with
  | nil => simp [Signal.bytes, maxLine]
  | append_singleton s x ih =>
    obtain ⟨hs, hdue⟩ := isOpen_concat.mp hopen
    obtain ⟨hclean, hshort⟩ := ih hs
    cases x with
    | byte b =>
      obtain ⟨hb, hlen⟩ := not_or.mp (mt isDue_concat_byte.mpr hdue)
      simp only [Signal.bytes_append, Signal.bytes, List.mem_append, List.mem_singleton,
        List.length_append, List.length_singleton]
      exact ⟨not_or.mpr ⟨hclean, Ne.symm hb⟩, by omega⟩
    | pause => simpa [Signal.bytes] using ⟨hclean, hshort⟩

private theorem IsPiece.bytes {s : List Signal} (hpiece : IsPiece s) :
    Signal.bytes s ≠ [] ∧ (Signal.bytes s).length ≤ maxLine ∧
      Bytes.newline ∉ (Signal.bytes s).dropLast := by
  induction s using List.reverseRecOn with
  | nil => exact absurd hpiece.due not_isDue_nil
  | append_singleton s x _ =>
    obtain ⟨hopen, hdue⟩ := isPiece_concat.mp hpiece
    obtain ⟨hclean, hshort⟩ := hopen.bytes
    cases x with
    | byte b =>
      simp only [Signal.bytes_append, Signal.bytes, List.length_append, List.length_singleton,
        List.dropLast_concat]
      exact ⟨by simp, by omega, hclean⟩
    | pause =>
      simp only [Signal.bytes_append, Signal.bytes, List.append_nil]
      refine ⟨(isDue_concat_pause hopen).mp hdue, Nat.le_of_lt hshort, fun hmem => ?_⟩
      exact hclean (List.dropLast_subset _ hmem)

/-! ### Cutting at boundaries -/

open Classical in
private theorem cutFrom_cons {s : List Signal} (hopen : IsOpen s) (complete : Bool) (x : Signal)
    (rest : List Signal) :
    cutFrom complete (Signal.bytes s) (x :: rest) =
      if IsDue (s ++ [x]) then Signal.bytes (s ++ [x]) :: cutFrom complete [] rest
      else cutFrom complete (Signal.bytes (s ++ [x])) rest := by
  cases x with
  | byte b => simp [cutFrom, isDue_concat_byte, Signal.bytes]
  | pause =>
    by_cases h : Signal.bytes s = []
    · simp [cutFrom, isDue_concat_pause hopen, Signal.bytes, h]
    · simp [cutFrom, isDue_concat_pause hopen, Signal.bytes, h]

private theorem areCutsOf_cutFrom_append {s : List Signal} (hopen : IsOpen s) (complete : Bool)
    (rest : List Signal) :
    AreCutsOf complete (s ++ rest) (cutFrom complete (Signal.bytes s) rest) := by
  induction rest generalizing s with
  | nil => exact ⟨[], s, by simp, by simp, hopen, by simp [cutFrom]⟩
  | cons x rest ih =>
    rw [cutFrom_cons hopen]
    split
    · rename_i hdue
      obtain ⟨pieces, pending, hrest, hpieces, hpending, hcuts⟩ := ih isOpen_nil
      refine ⟨(s ++ [x]) :: pieces, pending, ?_, ?_, hpending, ?_⟩
      · simp only [List.nil_append] at hrest
        simp [hrest]
      · intro p hp
        rcases List.mem_cons.mp hp with rfl | hp
        · exact isPiece_concat.mpr ⟨hopen, hdue⟩
        · exact hpieces p hp
      · simp only [Signal.bytes] at hcuts
        simp [hcuts]
    · rename_i hdue
      have hnext := ih (isOpen_concat.mpr ⟨hopen, hdue⟩)
      simpa using hnext

theorem areCutsOf_cutFrom (complete : Bool) (s : List Signal) :
    AreCutsOf complete s (cutFrom complete [] s) :=
  areCutsOf_cutFrom_append isOpen_nil complete s

theorem AreCutsOf.bytes {complete : Bool} {s : List Signal} {cuts : List Bytes}
    (h : AreCutsOf complete s cuts) :
    ∀ c ∈ cuts, c ≠ [] ∧ c.length ≤ maxLine ∧ Bytes.newline ∉ c.dropLast := by
  obtain ⟨pieces, pending, -, hpieces, hpending, rfl⟩ := h
  intro c hc
  rcases List.mem_append.mp hc with hc | hc
  · obtain ⟨p, hp, rfl⟩ := List.mem_map.mp hc
    exact (hpieces p hp).bytes
  · split at hc
    · rename_i hlast
      obtain ⟨hclean, hshort⟩ := hpending.bytes
      rw [List.mem_singleton.mp hc]
      refine ⟨by simpa using (Bool.and_eq_true_iff.mp hlast).2, Nat.le_of_lt hshort, fun hmem => ?_⟩
      exact hclean (List.dropLast_subset _ hmem)
    · simp at hc

/-- All bytes are in the cuts, apart from those of an unfinished line in an incomplete stream. -/
theorem AreCutsOf.flatten {complete : Bool} {s : List Signal} {cuts : List Bytes}
    (h : AreCutsOf complete s cuts) :
    ∃ lost, Signal.bytes s = cuts.flatten ++ lost ∧ Bytes.newline ∉ lost ∧
      lost.length < maxLine ∧ (complete = true → lost = []) := by
  obtain ⟨pieces, pending, rfl, -, hpending, rfl⟩ := h
  obtain ⟨hclean, hshort⟩ := hpending.bytes
  have hpieces : Signal.bytes pieces.flatten = (pieces.map Signal.bytes).flatten := by
    clear hpending
    induction pieces with
    | nil => rfl
    | cons p pieces ih => simp [ih]
  split
  · refine ⟨[], ?_, by simp, by simp [maxLine], fun _ => rfl⟩
    simp [hpieces]
  · rename_i hlast
    refine ⟨Signal.bytes pending, by simp [hpieces], hclean, hshort, ?_⟩
    rintro rfl
    simpa using hlast

/-! ### Chunks -/

private theorem map_bytes_marked (startsLine : Bool) (cuts : List Bytes) :
    (marked startsLine cuts).map Chunk.bytes = cuts := by
  induction cuts generalizing startsLine with
  | nil => rfl
  | cons c cuts ih => simp [marked, ih]

theorem length_marked (startsLine : Bool) (cuts : List Bytes) :
    (marked startsLine cuts).length = cuts.length := by
  rw [← List.length_map Chunk.bytes, map_bytes_marked]

private theorem isChain_marked (startsLine : Bool) (cuts : List Bytes) :
    (marked startsLine cuts).IsChain fun a b => b.startsLine = endsLine a.bytes := by
  induction cuts generalizing startsLine with
  | nil => simp [marked]
  | cons c cuts ih =>
    cases cuts with
    | nil => simp [marked]
    | cons d cuts =>
      have := ih (endsLine c)
      simp only [marked] at this ⊢
      exact List.isChain_cons_cons.mpr ⟨rfl, this⟩

/-- The chunks of a stream. Their bytes are what arrived, up to an unfinished line that a failure
takes away; each holds something, no more than a line may, and a newline only at its end; the first
begins a line, and so does every one after a newline; they end exactly where a boundary is due or
the stream ends; and they are the same for every stream with the same bytes between long
silences. -/
theorem chunks_cut_exactly_where_due (patience : Option Nat) (events : List Event) :
    (chunks patience events).2 = failure? events ∧
      (failure? events = none →
        ((chunks patience events).1.map Chunk.bytes).flatten = received events) ∧
      (failure? events ≠ none →
        ∃ lost, received events = ((chunks patience events).1.map Chunk.bytes).flatten ++ lost ∧
          Bytes.newline ∉ lost ∧ lost.length < maxLine) ∧
      (∀ c ∈ (chunks patience events).1,
        c.bytes ≠ [] ∧ c.bytes.length ≤ maxLine ∧ Bytes.newline ∉ c.bytes.dropLast) ∧
      (∀ c ∈ (chunks patience events).1.head?, c.startsLine = true) ∧
      ((chunks patience events).1.IsChain fun a b => b.startsLine = endsLine a.bytes) ∧
      AreCutsOf (failure? events).isNone (signals patience events)
        ((chunks patience events).1.map Chunk.bytes) ∧
      ∀ other, signals patience other = signals patience events →
        (failure? other).isNone = (failure? events).isNone →
        (chunks patience other).1 = (chunks patience events).1 := by
  have hcuts := areCutsOf_cutFrom (failure? events).isNone (signals patience events)
  obtain ⟨lost, hflatten, hclean, hshort, hcomplete⟩ := hcuts.flatten
  rw [bytes_signals] at hflatten
  simp only [chunks_eq, map_bytes_marked]
  refine ⟨trivial, ?_, ?_, ?_, ?_, isChain_marked _ _, hcuts, ?_⟩
  · intro hnone
    rw [hcomplete (by simp [hnone]), List.append_nil] at hflatten
    exact hflatten.symm
  · intro _
    exact ⟨lost, hflatten, hclean, hshort⟩
  · intro c hc
    have hmem := List.mem_map_of_mem (f := Chunk.bytes) hc
    rw [map_bytes_marked] at hmem
    exact hcuts.bytes c.bytes hmem
  · intro c hc
    generalize cutFrom (failure? events).isNone [] (signals patience events) = cuts at hc
    cases cuts with
    | nil => simp [marked] at hc
    | cons d cuts =>
      simp only [marked, List.head?_cons, Option.mem_def, Option.some.injEq] at hc
      simp [← hc]
  · intro other hsignals hfailure
    rw [hsignals, hfailure]

/-- A prompt is given out after a hundred silent milliseconds, be they heard at once or in parts. A
shorter silence before it and another one after it do not count. -/
theorem chunks_cut_exactly_where_due_prompt :
    let prompt := Bytes.ofString "login:"
    let answer := Bytes.ofString "root\n"
    let events := [.data (prompt.take 2), .idle 60, .data (prompt.drop 2), .idle 60, .idle 40,
      .data answer]
    let other := [.data prompt, .idle 100, .data (answer.take 3), .idle 99, .data (answer.drop 3)]
    (chunks (some 100) events).1 = [⟨prompt, true⟩, ⟨answer, false⟩] ∧
      (chunks (some 100) other).1 = [⟨prompt, true⟩, ⟨answer, false⟩] := by
  intro prompt answer events other
  have hchunks : (chunks (some 100) events).1 = [⟨prompt, true⟩, ⟨answer, false⟩] := by
    rw [chunks_eq]
    decide +kernel
  obtain ⟨-, -, -, -, -, -, -, hsame⟩ := chunks_cut_exactly_where_due (some 100) events
  exact ⟨hchunks, (hsame other (by decide +kernel) rfl).trans hchunks⟩

end PxeLaunch.Noise

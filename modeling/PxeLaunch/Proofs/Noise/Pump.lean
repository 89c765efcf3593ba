import PxeLaunch.Proofs.Noise.Line
import PxeLaunch.Proofs.Noise.Terminator

/-!
Pumping a stream through the filter. Main statement: what is written for a stream is what its lines
come to, one write for each piece that something is left of, however the stream arrived.
-/

set_option autoImplicit false

namespace PxeLaunch.Noise

/-! ### Lines as they are shown -/

/-- The pieces of a line as they are shown. The rules are compared with the first one; if they
replace it, the others are left out but for the terminator. -/
def Filter.shownPieces (f : Filter) (line : Bytes) : List Bytes :=
  match pieces line with
  | [] => []
  | first :: others =>
    match f.replace (content first) with
    | none => first :: others
    | some out => (out ++ terminator first) :: others.map terminator

/-- A line as it is shown. A line that is too long stays as it is, or becomes what takes the place
of its first piece, with the terminator of its last one. -/
def Filter.shown (f : Filter) (line : Bytes) : Bytes :=
  if line.length ≤ maxLine then f.line line
  else match f.replace (content (line.take maxLine)) with
    | none => line
    | some out => out ++ terminator ((pieces line).getLastD [])

/-! ### Pieces of a line -/

private theorem pieces_eq_append {line : Bytes} (hclean : Bytes.newline ∉ line.dropLast) :
    ∃ start last, pieces line = start ++ [last] ∧ start.flatten ++ last = line ∧
      (∀ p ∈ start, Bytes.newline ∉ p) ∧ endsLine last = endsLine line := by
  by_cases hlong : maxLine < line.length
  · obtain ⟨start, last, hpieces, hflatten, hstart, hlast⟩ :=
      pieces_eq_append (not_mem_dropLast_drop hclean maxLine)
    refine ⟨line.take maxLine :: start, last, ?_, ?_, ?_, ?_⟩
    · rw [pieces_of_lt hlong, hpieces]
      rfl
    · rw [List.flatten_cons, List.append_assoc, hflatten, List.take_append_drop]
    · exact List.forall_mem_cons.mpr ⟨not_mem_take_maxLine hclean hlong, hstart⟩
    · rw [hlast, endsLine_drop hlong]
  · exact ⟨[], line, pieces_of_le (Nat.not_lt.mp hlong), rfl, by simp, rfl⟩
termination_by line.length
decreasing_by exact length_drop_maxLine_lt hlong

theorem endsLine_of_not_mem {bytes : Bytes} (h : Bytes.newline ∉ bytes) :
    endsLine bytes = false := by
  have hlast : bytes.getLast? ≠ some Bytes.newline := fun hlast => h (List.mem_of_getLast? hlast)
  simpa [endsLine] using hlast

/-! ### Chunks of a line -/

private theorem chunks_marked_true (f : Filter) (s t : LineState) (cuts : List Bytes) :
    f.chunks s (marked true cuts) = f.chunks t (marked true cuts) := by
  cases cuts with
  | nil => rfl
  | cons c cuts => simp [marked, Filter.chunks, Filter.chunk]

private theorem chunks_marked_endsLine (f : Filter) (s : LineState) {last : Bytes}
    {cuts : List Bytes} (hend : endsLine last = true ∨ cuts = []) :
    f.chunks s (marked (endsLine last) cuts) = f.chunks .start (marked true cuts) := by
  rcases hend with hend | rfl
  · rw [hend]
    exact chunks_marked_true f s .start cuts
  · rfl

theorem chunks_continued (f : Filter) (replaced : Bool) {start : List Bytes} {last : Bytes}
    (hstart : ∀ p ∈ start, Bytes.newline ∉ p) {cuts : List Bytes}
    (hend : endsLine last = true ∨ cuts = []) :
    f.chunks ⟨replaced⟩ (marked false (start ++ last :: cuts)) =
      (if replaced then (start ++ [last]).map terminator else start ++ [last]) ++
        f.chunks .start (marked true cuts) := by
  induction start with
  | nil =>
    cases replaced with
    | false => simp [marked, Filter.chunks, Filter.chunk, chunks_marked_endsLine f _ hend]
    | true => simp [marked, Filter.chunks, Filter.chunk, chunks_marked_endsLine f _ hend]
  | cons p start ih =>
    obtain ⟨hp, hstart⟩ := List.forall_mem_cons.mp hstart
    cases replaced with
    | false =>
      simp [marked, Filter.chunks, Filter.chunk, endsLine_of_not_mem hp] at ih ⊢
      exact ih hstart
    | true =>
      simp [marked, Filter.chunks, Filter.chunk, endsLine_of_not_mem hp,
        terminator_of_not_mem hp] at ih ⊢
      exact ih hstart

private theorem chunks_line (f : Filter) {line : Bytes} (hclean : Bytes.newline ∉ line.dropLast)
    {cuts : List Bytes} (hend : endsLine line = true ∨ cuts = []) :
    f.chunks .start (marked true (pieces line ++ cuts)) =
      f.shownPieces line ++ f.chunks .start (marked true cuts) := by
  obtain ⟨start, last, hpieces, -, hstart, hlast⟩ := pieces_eq_append hclean
  rw [← hlast] at hend
  rw [Filter.shownPieces, hpieces]
  cases start with
  | nil =>
    cases hreplace : f.replace (content last) with
    | none => simp [marked, Filter.chunks, Filter.chunk, hreplace, chunks_marked_endsLine f _ hend]
    | some out =>
      simp [marked, Filter.chunks, Filter.chunk, hreplace, chunks_marked_endsLine f _ hend]
  | cons first others =>
    obtain ⟨hfirst, hothers⟩ := List.forall_mem_cons.mp hstart
    have hrest := fun replaced => chunks_continued f replaced hothers hend
    cases hreplace : f.replace (content first) with
    | none =>
      simp [marked, Filter.chunks, Filter.chunk, endsLine_of_not_mem hfirst, hreplace, hrest false]
    | some out =>
      simp [marked, Filter.chunks, Filter.chunk, endsLine_of_not_mem hfirst,
        terminator_of_not_mem hfirst, hreplace, hrest true]

private theorem chunks_lines (f : Filter) (bytes : Bytes) :
    f.chunks .start (marked true ((lines bytes).flatMap pieces)) =
      (lines bytes).flatMap f.shownPieces := by
  induction bytes using lines_induction with
  | nil => rfl
  | last line hclean hne =>
    have hline := chunks_line f (fun h => hclean (List.dropLast_subset line h)) (.inr rfl)
    rw [List.append_nil] at hline
    rw [lines_of_not_mem hclean hne]
    simpa [marked, Filter.chunks] using hline
  | line head rest hclean ih =>
    have hdropLast : Bytes.newline ∉ (head ++ [Bytes.newline]).dropLast := by
      rwa [List.dropLast_concat]
    rw [lines_append_newline hclean, List.flatMap_cons, List.flatMap_cons,
      chunks_line f hdropLast (.inl (endsLine_concat_newline head)), ih]

private theorem length_shownPieces (f : Filter) (line : Bytes) :
    (f.shownPieces line).length = (pieces line).length := by
  unfold Filter.shownPieces
  split
  · rename_i h
    rw [h]
  · rename_i first others h
    rw [h]
    split <;> simp

private theorem shownPieces_of_le (f : Filter) {line : Bytes} (h : line.length ≤ maxLine) :
    f.shownPieces line = [f.line line] := by
  simp only [Filter.shownPieces, pieces_of_le h, Filter.line, Filter.replaceLine]
  cases f.replace (content line) <;> simp

private theorem flatten_shownPieces (f : Filter) {line : Bytes}
    (hclean : Bytes.newline ∉ line.dropLast) : (f.shownPieces line).flatten = f.shown line := by
  unfold Filter.shown
  split
  · rename_i hshort
    simp [shownPieces_of_le f hshort]
  · rename_i hlong
    have hlong := Nat.not_le.mp hlong
    obtain ⟨start, last, hpieces, hflatten, hstart, -⟩ :=
      pieces_eq_append (not_mem_dropLast_drop hclean maxLine)
    have hfirst := not_mem_take_maxLine hclean hlong
    have hquiet : (start.map terminator).flatten = [] := by
      simpa using fun p hp => terminator_of_not_mem (hstart p hp)
    simp only [Filter.shownPieces, pieces_of_lt hlong, hpieces]
    cases f.replace (content (line.take maxLine)) with
    | none => simp [hflatten]
    | some out =>
      rw [← List.cons_append, List.getLastD_concat]
      simp [terminator_of_not_mem hfirst, hquiet]

/-! ### Pumping -/

theorem pumpFrom_eq (f : Filter) (state : LineState) (startsLine : Bool) (events : List Event) :
    (f.pumpFrom none state startsLine events).writes =
        (f.chunks state (chunksFrom none startsLine events).1).filter (!·.isEmpty) ∧
      (f.pumpFrom none state startsLine events).result =
        match (chunksFrom none startsLine events).2 with
        | none => .ok (chunksFrom none startsLine events).1.length
        | some cause => .error cause := by
  -- Pumping follows the readings of the stream, as cutting it into chunks does.
  rw [Filter.pumpFrom]
  split
  · rename_i h
    rw [chunksFrom_of_ended h]
    exact ⟨rfl, rfl⟩
  · rename_i cause rest h
    rw [chunksFrom_of_failed h]
    exact ⟨rfl, rfl⟩
  · rename_i bytes rest h
    have hshorter := weight_read_lt h
    obtain ⟨hwrites, hresult⟩ :=
      pumpFrom_eq f (f.chunk ⟨bytes, startsLine⟩ state).2 (endsLine bytes) rest
    rw [chunksFrom_of_chunk h]
    simp only [Filter.chunks]
    have hcount : (f.pumpFrom none (f.chunk ⟨bytes, startsLine⟩ state).2 (endsLine bytes)
        rest).counted.result = match (chunksFrom none (endsLine bytes) rest).2 with
          | none => .ok ((chunksFrom none (endsLine bytes) rest).1.length + 1)
          | some cause => .error cause := by
      rw [Pumped.counted, hresult]
      cases (chunksFrom none (endsLine bytes) rest).2 <;> rfl
    split
    · rename_i hempty
      simpa [hempty, Pumped.counted, hwrites] using hcount
    · rename_i hfull
      simpa [hfull, Pumped.counted, hwrites] using hcount
termination_by weight events

/-- What is written for a stream that does not fail depends on its bytes alone: its lines as they
are shown, with one write for each piece that something is left of. Every piece is counted. -/
theorem pump_writes_shown_lines (f : Filter) {events : List Event} (h : failure? events = none) :
    (f.pump none events).writes.flatten = (lines (received events)).flatMap f.shown ∧
      (f.pump none events).writes =
        ((lines (received events)).flatMap f.shownPieces).filter (!·.isEmpty) ∧
      ((lines (received events)).flatMap f.shownPieces).length =
        ((lines (received events)).flatMap pieces).length ∧
      (f.pump none events).result = .ok ((lines (received events)).flatMap pieces).length := by
  obtain ⟨hwrites, hresult⟩ := pumpFrom_eq f .start true events
  have hcuts : cutFrom true [] (signals none events) =
      (lines (received events)).flatMap pieces := by
    rw [signals, signalsFrom_none, cutFrom_map_byte]
  have hchunks : chunksFrom none true events =
      (marked true ((lines (received events)).flatMap pieces), none) := by
    rw [chunksFrom_eq, h, Option.isNone_none, hcuts]
  rw [hchunks, chunks_lines] at hwrites
  simp only [hchunks, length_marked] at hresult
  refine ⟨?_, hwrites, ?_, hresult⟩
  · rw [Filter.pump, hwrites, List.flatten_filter_not_isEmpty, ← List.flatMap_id,
      List.flatMap_assoc]
    refine List.flatMap_congr fun line hline => ?_
    rw [List.flatMap_id, flatten_shownPieces f (not_mem_dropLast_of_mem_lines hline)]
  · rw [List.length_flatMap, List.length_flatMap]
    simp only [length_shownPieces]

/-- A carriage return keeps its newline though they come in different windows, and a line that is
cut by a silence is still one line. -/
theorem pump_writes_shown_lines_split_terminator :
    let f := (Filter.compile [⟨"Bds", "[Bds]"⟩]).toOption.getD .passthrough
    let events : List Event := [.data (Bytes.ofString "Bds: x\r"), .idle 9,
      .data (Bytes.ofString "\nShe"), .idle 9, .data (Bytes.ofString "ll")]
    failure? events = none ∧
      (f.pump none events).writes = [Bytes.ofString "[Bds]\r\n", Bytes.ofString "Shell"] := by
  intro f events
  have hfails : failure? events = none := rfl
  obtain ⟨-, hwrites, -⟩ := pump_writes_shown_lines f hfails
  have hshort : ∀ line ∈ lines (received events), f.shownPieces line = [f.line line] :=
    fun line hline => shownPieces_of_le f ((by decide : ∀ line ∈ lines (received events),
      line.length ≤ maxLine) line hline)
  refine ⟨hfails, ?_⟩
  rw [hwrites, List.flatMap_congr hshort]
  decide +kernel

end PxeLaunch.Noise

import Mathlib.Data.List.TakeDrop
import PxeLaunch.Proofs.Noise.Boundary

/-!
Lines of a byte string, and the pieces of a line that is too long. Main statement: a reader that
hears a byte string to its end cuts it into the pieces of its lines.
-/

set_option autoImplicit false

namespace PxeLaunch.Noise

/-! ### Lines and pieces -/

/-- A byte string cut after each newline; the last line may lack one. -/
def lines : Bytes → List Bytes
  | [] => []
  | b :: rest =>
    if b = Bytes.newline then [b] :: lines rest
    else match lines rest with
      | [] => [[b]]
      | line :: more => (b :: line) :: more

/-- A line cut after as many bytes as a line may have. -/
def pieces (line : Bytes) : List Bytes :=
  if line.length ≤ maxLine then [line]
  else line.take maxLine :: pieces (line.drop maxLine)
termination_by line.length
decreasing_by
  rw [List.length_drop]
  have : 0 < maxLine := by decide
  omega

theorem pieces_of_le {line : Bytes} (h : line.length ≤ maxLine) : pieces line = [line] := by
  rw [pieces, if_pos h]

theorem pieces_of_lt {line : Bytes} (h : maxLine < line.length) :
    pieces line = line.take maxLine :: pieces (line.drop maxLine) := by
  rw [pieces, if_neg (Nat.not_le.mpr h)]

theorem lines_of_not_mem {line : Bytes} (hclean : Bytes.newline ∉ line) (hne : line ≠ []) :
    lines line = [line] := by
  induction line with
  | nil => exact absurd rfl hne
  | cons b line ih =>
    obtain ⟨hb, hline⟩ := not_or.mp (mt List.mem_cons.mpr hclean)
    simp only [lines, Ne.symm hb, if_false]
    cases line with
    | nil => simp [lines]
    | cons c line => simp [ih hline (by simp)]

theorem lines_append_newline {head : Bytes} (hclean : Bytes.newline ∉ head) (rest : Bytes) :
    lines (head ++ Bytes.newline :: rest) = (head ++ [Bytes.newline]) :: lines rest := by
  induction head with
  | nil => simp [lines]
  | cons b head ih =>
    obtain ⟨hb, hhead⟩ := not_or.mp (mt List.mem_cons.mpr hclean)
    simp [lines, Ne.symm hb, ih hhead]

theorem lines_induction {motive : Bytes → Prop} (nil : motive [])
    (last : ∀ line, Bytes.newline ∉ line → line ≠ [] → motive line)
    (line : ∀ head rest, Bytes.newline ∉ head → motive rest →
      motive (head ++ Bytes.newline :: rest)) (bytes : Bytes) : motive bytes := by
  obtain ⟨left, happend, hclean, hleft⟩ := takeWhile_newline bytes
  rw [happend]
  rcases hleft with rfl | ⟨after, rfl⟩
  · by_cases hhead : bytes.takeWhile (· != Bytes.newline) = []
    · rw [hhead]
      exact nil
    · rw [List.append_nil]
      exact last _ hclean hhead
  · have hlength := congrArg List.length happend
    simp only [List.length_append, List.length_cons] at hlength
    have hshorter : after.length < bytes.length := by omega
    exact line _ after hclean (lines_induction nil last line after)
termination_by bytes.length

theorem not_mem_dropLast_of_mem_lines {bytes line : Bytes} (h : line ∈ lines bytes) :
    Bytes.newline ∉ line.dropLast := by
  induction bytes using lines_induction with
  | nil => simp [lines] at h
  | last last hclean hne =>
    rw [lines_of_not_mem hclean hne, List.mem_singleton] at h
    subst h
    exact fun hmem => hclean (List.dropLast_subset line hmem)
  | line head rest hclean ih =>
    rw [lines_append_newline hclean] at h
    rcases List.mem_cons.mp h with rfl | h
    · rwa [List.dropLast_concat]
    · exact ih h

/-! ### A piece and what comes after it -/

theorem not_mem_take_maxLine {line : Bytes} (hclean : Bytes.newline ∉ line.dropLast)
    (hlong : maxLine < line.length) : Bytes.newline ∉ line.take maxLine := by
  intro hmem
  apply hclean
  rw [List.dropLast_eq_take]
  exact List.take_subset_take_left line (by omega) hmem

theorem not_mem_dropLast_drop {line : Bytes} (hclean : Bytes.newline ∉ line.dropLast) (n : Nat) :
    Bytes.newline ∉ (line.drop n).dropLast := by
  rw [List.dropLast_drop_eq_drop_dropLast]
  exact fun hmem => hclean (List.mem_of_mem_drop hmem)

theorem endsLine_drop {line : Bytes} {n : Nat} (h : n < line.length) :
    endsLine (line.drop n) = endsLine line := by
  simp [endsLine, List.getLast?_drop, Nat.not_le.mpr h]

theorem length_drop_maxLine_lt {line : Bytes} (hlong : maxLine < line.length) :
    (line.drop maxLine).length < line.length := by
  rw [List.length_drop]
  have : 0 < maxLine := by decide
  omega

/-! ### The pieces are the cuts -/

theorem endsLine_concat_newline (head : Bytes) : endsLine (head ++ [Bytes.newline]) = true := by
  simp [endsLine]

private theorem exists_of_endsLine {line : Bytes} (h : endsLine line = true) :
    ∃ head, line = head ++ [Bytes.newline] := by
  exact List.getLast?_eq_some_iff.mp (by simpa [endsLine] using h)

private theorem not_mem_of_not_endsLine {line : Bytes} (hclean : Bytes.newline ∉ line.dropLast)
    (h : endsLine line = false) : Bytes.newline ∉ line := by
  intro hmem
  rcases List.eq_nil_or_concat line with rfl | ⟨start, b, rfl⟩
  · simp at hmem
  · simp only [List.concat_eq_append, List.dropLast_concat, List.mem_append,
      List.mem_singleton] at hclean hmem
    rcases hmem with hmem | rfl
    · exact hclean hmem
    · simp [endsLine] at h

private theorem cutFrom_short {line : Bytes} (hclean : Bytes.newline ∉ line.dropLast)
    (hne : line ≠ []) (hshort : line.length ≤ maxLine) {rest : List Signal}
    (hend : endsLine line = true ∨ rest = []) :
    cutFrom true [] (line.map .byte ++ rest) = line :: cutFrom true [] rest := by
  by_cases hline : endsLine line = true
  · obtain ⟨head, rfl⟩ := exists_of_endsLine hline
    rw [List.dropLast_concat] at hclean
    rw [List.length_append, List.length_singleton] at hshort
    have hroom : ([] : Bytes).length + head.length < maxLine := by
      rw [List.length_nil]
      omega
    simpa using cutFrom_newline hclean hroom true rest
  · have hrest : rest = [] := hend.resolve_left hline
    subst hrest
    have hmem := not_mem_of_not_endsLine hclean (by simpa using hline)
    rcases Nat.lt_or_eq_of_le hshort with hlt | heq
    · rw [cutFrom_append_of_lt hmem (by simpa using hlt)]
      simp [cutFrom, hne]
    · rw [cutFrom_append_of_eq hmem (by simp [maxLine]) (by simpa using heq)]
      simp

private theorem cutFrom_pieces {line : Bytes} (hclean : Bytes.newline ∉ line.dropLast)
    (hne : line ≠ []) {rest : List Signal} (hend : endsLine line = true ∨ rest = []) :
    cutFrom true [] (line.map .byte ++ rest) = pieces line ++ cutFrom true [] rest := by
  by_cases hlong : maxLine < line.length
  · have hdrop : line.drop maxLine ≠ [] := by
      rw [Ne, List.drop_eq_nil_iff]
      omega
    rw [← endsLine_drop hlong] at hend
    have hsplit : line.map Signal.byte ++ rest = (line.take maxLine).map Signal.byte ++
        ((line.drop maxLine).map Signal.byte ++ rest) := by
      rw [← List.append_assoc, ← List.map_append, List.take_append_drop]
    have hfull : ([] : Bytes).length + (line.take maxLine).length = maxLine := by
      rw [List.length_nil, List.length_take]
      omega
    rw [hsplit, cutFrom_append_of_eq (not_mem_take_maxLine hclean hlong) (by simp [maxLine]) hfull,
      cutFrom_pieces (not_mem_dropLast_drop hclean maxLine) hdrop hend, pieces_of_lt hlong]
    rfl
  · rw [pieces_of_le (Nat.not_lt.mp hlong), cutFrom_short hclean hne (Nat.not_lt.mp hlong) hend]
    rfl
termination_by line.length
decreasing_by exact length_drop_maxLine_lt hlong

/-- A byte string that is heard to its end is cut into the pieces of its lines. -/
theorem cutFrom_map_byte (bytes : Bytes) :
    cutFrom true [] (bytes.map .byte) = (lines bytes).flatMap pieces := by
  induction bytes using lines_induction with
  | nil => rfl
  | last line hclean hne =>
    have hcut : cutFrom true [] (line.map .byte ++ []) = pieces line ++ cutFrom true [] [] :=
      cutFrom_pieces (fun h => hclean (List.dropLast_subset line h)) hne (.inr rfl)
    rw [lines_of_not_mem hclean hne]
    simpa [cutFrom] using hcut
  | line head rest hclean ih =>
    have hcut : cutFrom true [] ((head ++ [Bytes.newline]).map .byte ++ rest.map .byte) =
        pieces (head ++ [Bytes.newline]) ++ cutFrom true [] (rest.map .byte) :=
      cutFrom_pieces (by simpa using hclean) (by simp) (.inl (endsLine_concat_newline head))
    rw [lines_append_newline hclean, List.flatMap_cons, ← ih, ← hcut]
    simp

end PxeLaunch.Noise

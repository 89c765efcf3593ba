import PxeLaunch.Noise.Filter

/-!
Terminators of lines. A line is its content followed by its terminator, and the terminator is a
newline with the carriage return before it, a newline alone, or nothing.
-/

set_option autoImplicit false

namespace PxeLaunch.Noise

@[simp] theorem terminator_nil : terminator [] = [] := rfl

private theorem terminator_concat (start : Bytes) (b : UInt8) :
    terminator (start ++ [b]) =
      if b = Bytes.newline then
        if start.getLast? = some Bytes.carriageReturn then [Bytes.carriageReturn, Bytes.newline]
        else [Bytes.newline]
      else [] := by
  rcases List.eq_nil_or_concat start with rfl | ⟨start, a, rfl⟩
  · by_cases hb : b = Bytes.newline <;> simp [terminator, hb]
  · by_cases hb : b = Bytes.newline
    · by_cases ha : a = Bytes.carriageReturn <;> simp [terminator, ha, hb]
    · simp [terminator, hb]

private theorem terminator_cases (line : Bytes) :
    terminator line = [] ∧ line.getLast? ≠ some Bytes.newline ∨
      (∃ start, line = start ++ [Bytes.newline] ∧ terminator line = [Bytes.newline] ∧
        start.getLast? ≠ some Bytes.carriageReturn) ∨
      ∃ start, line = start ++ [Bytes.carriageReturn, Bytes.newline] ∧
        terminator line = [Bytes.carriageReturn, Bytes.newline] := by
  rcases List.eq_nil_or_concat line with rfl | ⟨start, b, rfl⟩
  · exact .inl ⟨rfl, by simp⟩
  · rw [List.concat_eq_append, terminator_concat]
    by_cases hb : b = Bytes.newline
    · subst hb
      by_cases hstart : start.getLast? = some Bytes.carriageReturn
      · obtain ⟨before, rfl⟩ := List.getLast?_eq_some_iff.mp hstart
        exact .inr (.inr ⟨before, by simp, by simp⟩)
      · exact .inr (.inl ⟨start, rfl, by simp [hstart], hstart⟩)
    · exact .inl ⟨by simp [hb], by simpa using hb⟩

theorem content_append_terminator (line : Bytes) : content line ++ terminator line = line := by
  rcases terminator_cases line with ⟨h, -⟩ | ⟨start, rfl, h, -⟩ | ⟨start, rfl, h⟩
  · simp [content, h]
  · simp [content, h]
  · simp [content, h]

theorem content_append {kept ending : Bytes} (h : terminator (kept ++ ending) = ending) :
    content (kept ++ ending) = kept := by
  have hsplit := content_append_terminator (kept ++ ending)
  rw [h] at hsplit
  exact List.append_cancel_right hsplit

theorem exists_moved (out line : Bytes) :
    ∃ kept moved, out = kept ++ moved ∧
      terminator (out ++ terminator line) = moved ++ terminator line := by
  rcases terminator_cases line with ⟨h, -⟩ | ⟨-, -, h, -⟩ | ⟨-, -, h⟩
  · refine ⟨content out, terminator out, (content_append_terminator out).symm, ?_⟩
    simp [h]
  · rw [h, terminator_concat]
    by_cases hout : out.getLast? = some Bytes.carriageReturn
    · obtain ⟨kept, rfl⟩ := List.getLast?_eq_some_iff.mp hout
      exact ⟨kept, [Bytes.carriageReturn], rfl, by simp⟩
    · exact ⟨out, [], by simp, by simp [hout]⟩
  · refine ⟨out, [], by simp, ?_⟩
    have hsplit : out ++ [Bytes.carriageReturn, Bytes.newline] =
        (out ++ [Bytes.carriageReturn]) ++ [Bytes.newline] := by simp
    rw [h, hsplit, terminator_concat]
    simp

/-- The terminator of a line is that of its end, unless the end is a newline whose carriage return
stands before it. -/
theorem terminator_append {ending : Bytes} (start : Bytes) (h : ending ≠ []) :
    terminator (start ++ ending) =
      if ending = [Bytes.newline] ∧ start.getLast? = some Bytes.carriageReturn then
        [Bytes.carriageReturn, Bytes.newline]
      else terminator ending := by
  obtain ⟨middle, b, rfl⟩ := (List.eq_nil_or_concat ending).resolve_left h
  rw [List.concat_eq_append, ← List.append_assoc, terminator_concat, terminator_concat]
  rcases List.eq_nil_or_concat middle with rfl | ⟨middle, a, rfl⟩
  · by_cases hb : b = Bytes.newline <;> simp [hb]
  · have hlong : ¬(middle.concat a ++ [b] = [Bytes.newline] ∧
        start.getLast? = some Bytes.carriageReturn) := fun heq => by
      simpa using congrArg List.length heq.1
    rw [if_neg hlong]
    simp

theorem terminator_of_not_mem {line : Bytes} (h : Bytes.newline ∉ line) : terminator line = [] := by
  rcases terminator_cases line with ⟨h, -⟩ | ⟨start, rfl, -, -⟩ | ⟨start, rfl, -⟩
  · exact h
  · simp at h
  · simp at h

end PxeLaunch.Noise

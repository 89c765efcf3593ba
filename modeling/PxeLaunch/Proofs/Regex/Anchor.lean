import PxeLaunch.Proofs.Regex.Agreement
import PxeLaunch.Proofs.Regex.Enclosed
import PxeLaunch.Proofs.Regex.Match

/-!
Patterns that are tied to the start of the text. Main statement: if a notation may stand by itself,
the pattern that is made of it, tied to the start, has matches at the start and nowhere else.
-/

set_option autoImplicit false

namespace PxeLaunch.Regex

/-! ### Programs that begin with a condition -/

private theorem Node.exists_code_ofParts_look (l : Look) (parts : List Node) (start : Nat) :
    ∃ rest, (Node.ofParts (.look l :: parts)).code start = .look l :: rest := by
  have hflat : Node.joinLiterals (Node.flatParts (.look l :: parts)) =
      .look l :: Node.joinLiterals (Node.flatParts parts) := rfl
  rw [Node.ofParts, hflat]
  cases Node.joinLiterals (Node.flatParts parts) with
  | nil => exact ⟨[], rfl⟩
  | cons n ns => exact ⟨_, rfl⟩

private theorem Accepts.satisfies_ofParts_look {l : Look} {parts : List Node}
    {names : List (String × Nat)}
    {p : Position} (h : Accepts (Program.ofNode (.ofParts (.look l :: parts)) names).code 0 p) :
    p.satisfies l = true := by
  obtain ⟨rest, hcode⟩ := Node.exists_code_ofParts_look l parts 1
  have hsave : (Program.ofNode (.ofParts (.look l :: parts)) names).code[0]? = some (.save 0) := by
    simp [Program.ofNode]
  have hlook : (Program.ofNode (.ofParts (.look l :: parts)) names).code[1]? = some (.look l) := by
    simp [Program.ofNode, hcode]
  -- Ways wait neither at the instruction that notes the start nor at the condition, so a way
  -- through the program passes both.
  obtain ⟨stop, i, hreaches, hi, hwaits⟩ := h.exists_reaches_waits
  rcases hreaches.cases_head with rfl | ⟨t, ⟨j, hj, ht⟩, hreaches⟩
  · obtain rfl := Option.some.inj (hsave.symm.trans hi)
    simp [Instruction.waits] at hwaits
  obtain rfl := Option.some.inj (hsave.symm.trans hj)
  obtain rfl : t = 1 := List.mem_singleton.mp ht
  rcases hreaches.cases_head with rfl | ⟨t, ⟨j, hj, ht⟩, -⟩
  · obtain rfl := Option.some.inj (hlook.symm.trans hi)
    simp [Instruction.waits] at hwaits
  obtain rfl := Option.some.inj (hlook.symm.trans hj)
  rw [Instruction.targetsAt] at ht
  split at ht
  · next hsatisfies => exact hsatisfies
  · simp at ht

/-! ### Patterns tied to the start -/

/-- At the front of an expression no switch is in force, so the start of the line is that of the
text. -/
private theorem Node.exists_of_ofExpression_lineStart {es : List Expression} {n : Node}
    {noted : Bool}
    (h : Node.ofExpression? (.concatenation (.assertion .lineStart :: es)) = some (n, noted)) :
    ∃ parts, n = .ofParts (.look .textStart :: parts) := by
  have hrun : (Meaning.node (.concatenation (.assertion .lineStart :: es))).run ⟨{}, false⟩ =
      ((Meaning.nodes es).run ⟨{}, false⟩).map fun found =>
        (.ofParts (.look .textStart :: found.1), found.2) := by
    simp [Meaning.node, Meaning.nodes, Meaning.assertionNode, Meaning.switches]
  obtain ⟨⟨node, stop⟩, hnode, hn⟩ := Option.bind_eq_some_iff.mp h
  rw [hrun] at hnode
  obtain ⟨⟨parts, stop'⟩, -, hparts⟩ := Option.map_eq_some_iff.mp hnode
  obtain ⟨rfl, -⟩ := Prod.mk.inj hparts
  obtain ⟨rfl, -⟩ := Prod.mk.inj (Option.some.inj hn)
  exact ⟨parts, rfl⟩

namespace Pattern

variable {own : String} {subject : Subject} {r : Pattern} {text : Bytes} {offset : Nat}

/-- Tied to the start, a notation that may stand by itself has matches at the start alone. -/
theorem HasMatchAt.eq_zero (hown : (parse? own.toList).isSome = true)
    (hcompile : compile subject ("^(?:" ++ own ++ ")") = .ok r) (h : r.HasMatchAt text offset) :
    offset = 0 := by
  obtain ⟨alone, halone⟩ := Option.isSome_iff_exists.mp hown
  obtain ⟨parsed, node, noted, hparsed, hnode, -, -, rfl⟩ := compile_eq_ok.mp hcompile
  have hchars : ("^(?:" ++ own ++ ")").toList =
      '^' :: '(' :: '?' :: ':' :: (own.toList ++ [')']) := by
    simp
  rw [hchars] at hparsed
  rw [expression_of_enclosed halone hparsed] at hnode
  obtain ⟨parts, rfl⟩ := Node.exists_of_ofExpression_lineStart hnode
  obtain ⟨hle, haccepts⟩ := h
  have hstart := haccepts.satisfies_ofParts_look
  have hnone : offset = 0 ∨ text = [] := by
    simpa [Position.satisfies, Position.advance, List.take_eq_nil_iff] using hstart
  rcases hnone with rfl | rfl
  · rfl
  · exact Nat.le_zero.mp hle

theorem isMatch_iff_hasMatchAt_zero (hown : (parse? own.toList).isSome = true)
    (hcompile : compile subject ("^(?:" ++ own ++ ")") = .ok r)
    (hstart : Position.IsStart (subject = .bytes) ⟨[], text⟩) :
    r.isMatch text = true ↔ r.HasMatchAt text 0 := by
  have hsubject : r.subject = subject := by
    obtain ⟨parsed, node, noted, -, -, -, -, rfl⟩ := compile_eq_ok.mp hcompile
    rfl
  rw [isMatch, hsubject, isSome_search_iff]
  constructor
  · rintro ⟨n, hn, -, haccepts⟩
    have hmatch : r.HasMatchAt text n := ⟨hn, haccepts⟩
    obtain rfl := hmatch.eq_zero hown hcompile
    exact hmatch
  · rintro ⟨hn, haccepts⟩
    exact ⟨0, hn, hstart, haccepts⟩

theorem isMatch_bytes_of_text_of_isSome (hown : (parse? own.toList).isSome = true)
    (hcompile : compile .text ("^(?:" ++ own ++ ")") = .ok r) (s : String) :
    { r with subject := .bytes }.isMatch (Bytes.ofString s) = r.isMatch (Bytes.ofString s) := by
  have hbegins : Position.IsStart false ⟨[], Bytes.ofString s⟩ := by
    refine .inr fun b rest hs => ?_
    dsimp only [Bytes.ofString] at hs
    cases hchars : s.toList with
    | nil => simp [hchars, Bytes.ofChars] at hs
    | cons c cs =>
      obtain ⟨lead, tail, hcons, hcharacter⟩ := Utf8.exists_ofChars_cons c cs
      rw [hchars, hcons] at hs
      exact (List.cons.inj hs).1 ▸ hcharacter.begins
  have htext := isMatch_iff_hasMatchAt_zero hown hcompile hbegins
  have hbytes : _ ↔ Pattern.HasMatchAt _ (Bytes.ofString s) 0 :=
    isMatch_iff_hasMatchAt_zero hown (compile_bytes_of_text hcompile) (.inl rfl)
  rw [Bool.eq_iff_iff, hbytes, htext]
  rfl

end Pattern

end PxeLaunch.Regex

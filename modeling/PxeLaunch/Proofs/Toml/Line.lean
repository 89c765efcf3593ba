import PxeLaunch.Proofs.Toml.Integer
import PxeLaunch.Proofs.Toml.Text
import PxeLaunch.Toml.Document

/-!
Lines of a document. Main statement: a document that is made of lines is read as their statements,
one for each line.
-/

set_option autoImplicit false

namespace PxeLaunch.Toml

/-- A key that takes no quotes. -/
structure BareKey where
  text : String
  isKeyChar : text.toList.all Statement.isKeyChar = true := by decide
  nonempty : text.toList ≠ [] := by decide

/-- A value that takes a part of a line. -/
inductive Plain where
  | string (s : String)
  | number (n : UInt32)
  | noItems

/-- A line of a document, with the empty line before a header counted to the header. -/
inductive Line where
  | assignment (key : BareKey) (value : Plain)
  | header (key : BareKey)
  | arrayHeader (key : BareKey)

private theorem BareKey.eq_cons (key : BareKey) :
    ∃ c cs, key.text.toList = c :: cs ∧ Statement.isKeyChar c = true := by
  obtain ⟨c, cs, hcs⟩ := List.exists_cons_of_ne_nil key.nonempty
  refine ⟨c, cs, hcs, List.all_eq_true.1 key.isKeyChar c ?_⟩
  rw [hcs]
  exact List.mem_cons_self

namespace Plain

def chars : Plain → List Char
  | .string s => Text.write s.toList
  | .number n => (toString n.toNat).toList
  | .noItems => "[]".toList

def value : Plain → Value
  | .string s => .string s
  | .number n => .integer n.toNat
  | .noItems => .array .bracketed []

end Plain

namespace Line

def chars : Line → List Char
  | .assignment key value => key.text.toList ++ " = ".toList ++ value.chars ++ ['\n']
  | .header key => "\n[".toList ++ key.text.toList ++ "]\n".toList
  | .arrayHeader key => "\n[[".toList ++ key.text.toList ++ "]]\n".toList

def statement : Line → Statement
  | .assignment key value => .assignment [key.text] value.value
  | .header key => .header [key.text]
  | .arrayHeader key => .arrayHeader [key.text]

end Line

namespace Statement

/-! ### Keys -/

private theorem ne_of_isKeyChar {c d : Char} (hc : isKeyChar c = true) (hd : isKeyChar d = false) :
    c ≠ d := by
  rintro rfl
  rw [hc] at hd
  exact absurd hd (by decide)

private theorem isBlank_of_isKeyChar {c : Char} (h : isKeyChar c = true) :
    Text.isBlank c = false := by
  simp [Text.isBlank, ne_of_isKeyChar h (d := ' ') rfl, ne_of_isKeyChar h (d := '\t') rfl]

private theorem dropBlanks_cons {c : Char} (h : Text.isBlank c = false) (rest : List Char) :
    dropBlanks (c :: rest) = c :: rest := by
  simp [dropBlanks, h]

private theorem simpleKey_append (key : BareKey) {rest : List Char}
    (hrest : ∀ c ∈ rest.head?, isKeyChar c = false) :
    simpleKey (key.text.toList ++ rest) = some (key.text, rest) := by
  have hend : rest.takeWhile isKeyChar = [] ∧ rest.dropWhile isKeyChar = rest := by
    cases rest with
    | nil => exact ⟨rfl, rfl⟩
    | cons d rest =>
      have hd : isKeyChar d = false := hrest d rfl
      exact ⟨List.takeWhile_cons_of_neg (by simp [hd]), List.dropWhile_cons_of_neg (by simp [hd])⟩
  have htake : (key.text.toList ++ rest).takeWhile isKeyChar = key.text.toList := by
    rw [List.takeWhile_append_of_pos (List.all_eq_true.1 key.isKeyChar), hend.1, List.append_nil]
  have hdrop : (key.text.toList ++ rest).dropWhile isKeyChar = rest := by
    rw [List.dropWhile_append_of_pos (List.all_eq_true.1 key.isKeyChar), hend.2]
  obtain ⟨c, cs, hcs, hc⟩ := BareKey.eq_cons key
  have hhead : (key.text.toList ++ rest).head? = some c := by rw [hcs]; rfl
  unfold simpleKey
  rw [htake, hdrop, hhead]
  split
  · rename_i heq
    exact absurd (Option.some.inj heq) (ne_of_isKeyChar hc rfl)
  · rename_i heq
    exact absurd (Option.some.inj heq) (ne_of_isKeyChar hc rfl)
  · simp [key.nonempty]

private theorem key_append (key : BareKey) {rest : List Char}
    (hrest : ∀ c ∈ rest.head?, isKeyChar c = false) (hdot : (dropBlanks rest).head? ≠ some '.') :
    Statement.key (key.text.toList ++ rest) = some ([key.text], dropBlanks rest) := by
  obtain ⟨c, cs, hcs, hc⟩ := BareKey.eq_cons key
  have hblanks : dropBlanks (key.text.toList ++ rest) = key.text.toList ++ rest := by
    rw [hcs]
    exact dropBlanks_cons (isBlank_of_isKeyChar hc) _
  unfold Statement.key
  rw [dottedKey, hblanks, simpleKey_append key hrest]
  dsimp only
  split
  · rename_i heq
    rw [heq] at hdot
    exact absurd rfl hdot
  · rfl

/-! ### Values -/

private theorem value_string (value : String) (fuel : Nat) (rest : List Char) :
    Statement.value (fuel + 2) 0 (Text.write value.toList ++ '\n' :: rest) =
      some (.string value, '\n' :: rest) := by
  have hread : Text.read? (Text.write value.toList ++ '\n' :: rest) =
      some (value.toList, '\n' :: rest) :=
    Text.read?_write value.toList (by simp)
  obtain ⟨body, hbody | hbody⟩ := Text.write_eq_cons value.toList
  all_goals
    rw [hbody, List.cons_append] at hread ⊢
    rw [Statement.value, hread]
    simp

private theorem toList_toString_eq_cons (n : Nat) :
    ∃ d ds, (toString n).toList = d :: ds ∧ d.isDigit = true := by
  have hdigits : (toString n).toList = Nat.toDigits 10 n := Nat.toList_repr
  obtain ⟨d, ds, hds⟩ := List.exists_cons_of_ne_nil (Nat.toDigits_ne_nil (n := n) (b := 10))
  refine ⟨d, ds, hdigits.trans hds, ?_⟩
  apply Nat.isDigit_of_mem_toDigits (b := 10) (n := n) (by decide) (by decide)
  rw [hds]
  exact List.mem_cons_self

private theorem value_of_isDigit {d : Char} (hd : d.isDigit = true) (fuel depth : Nat)
    (ds : List Char) : Statement.value (fuel + 1) depth (d :: ds) = Scalar.read? (d :: ds) := by
  have hne (c : Char) (hc : c.isDigit = false) (cs : List Char) : d :: ds = c :: cs → False := by
    rintro heq
    obtain ⟨rfl, -⟩ := List.cons.inj heq
    rw [hd] at hc
    exact absurd hc (by decide)
  rw [Statement.value]
  · exact hne _ rfl
  · exact hne _ rfl
  · exact hne _ rfl
  · exact hne _ rfl

private theorem value_number (n : UInt32) (fuel : Nat) (rest : List Char) :
    Statement.value (fuel + 2) 0 ((toString n.toNat).toList ++ '\n' :: rest) =
      some (.integer n.toNat, '\n' :: rest) := by
  have hread : Scalar.read? (Nat.toDigits 10 n.toNat ++ '\n' :: rest) =
      some (.integer n.toNat, '\n' :: rest) :=
    Scalar.read?_toDigits (by have := n.toNat_lt; omega) rest
  obtain ⟨d, ds, hds, hd⟩ := toList_toString_eq_cons n.toNat
  rw [← Nat.toList_repr, ← Nat.toString_eq_repr, hds, List.cons_append] at hread
  rw [hds, List.cons_append, value_of_isDigit hd, hread]

private theorem value_noItems (fuel : Nat) (rest : List Char) :
    Statement.value (fuel + 2) 0 (['[', ']'] ++ '\n' :: rest) =
      some (.array .bracketed [], '\n' :: rest) := by
  simp [Statement.value, dropTrivia, elements, depthLimit, Text.isBlank]

private theorem value_plain (v : Plain) (fuel : Nat) (rest : List Char) :
    Statement.value (fuel + 2) 0 (v.chars ++ '\n' :: rest) = some (v.value, '\n' :: rest) := by
  cases v with
  | string s => exact value_string s fuel rest
  | number n => exact value_number n fuel rest
  | noItems => exact value_noItems fuel rest

private theorem isBlank_head?_chars (v : Plain) (rest : List Char) :
    ∃ c cs, v.chars ++ rest = c :: cs ∧ Text.isBlank c = false := by
  cases v with
  | string s =>
    obtain ⟨body, hbody | hbody⟩ := Text.write_eq_cons s.toList
    all_goals exact ⟨_, body ++ rest, congrArg (· ++ rest) hbody, rfl⟩
  | number n =>
    obtain ⟨d, ds, hds, hd⟩ := toList_toString_eq_cons n.toNat
    exact ⟨d, ds ++ rest, congrArg (· ++ rest) hds,
      isBlank_of_isKeyChar (by simp [isKeyChar, Char.isAlphanum, hd])⟩
  | noItems => exact ⟨'[', ']' :: rest, rfl, rfl⟩

/-! ### Lines -/

private theorem dropTrivia_of_isKeyChar {c : Char} (h : isKeyChar c = true) (rest : List Char) :
    dropTrivia false (c :: rest) = some (c :: rest) := by
  have hnewline : c ≠ '\n' := ne_of_isKeyChar h rfl
  have hreturn : c ≠ '\r' := ne_of_isKeyChar h rfl
  have hhash : c ≠ '#' := ne_of_isKeyChar h rfl
  rw [dropTrivia.eq_4 _ _ _ (fun h => hnewline h) (fun _ h _ => hreturn h)]
  simp [isBlank_of_isKeyChar h, hhash]

theorem readFrom_newline (found : List Statement) (fuel : Nat) (rest : List Char) :
    readFrom found (fuel + 1) ('\n' :: rest) = readFrom found (fuel + 1) rest := rfl

theorem readFrom_key (found : List Statement) (fuel : Nat) (key : BareKey) {text : List Char}
    (htext : ∀ c ∈ text.head?, Text.isBlank c = false) :
    readFrom found (fuel + 1) (key.text.toList ++ ' ' :: '=' :: ' ' :: text) =
      (Statement.value (text.length + 2) 0 text).bind fun (v, after) =>
        (dropLineEnd false after).bind fun next =>
          readFrom (.assignment [key.text] v :: found) fuel next := by
  have hkey : Statement.key (key.text.toList ++ ' ' :: '=' :: ' ' :: text) =
      some ([key.text], '=' :: ' ' :: text) :=
    key_append key (by simp; rfl) (by simp [dropBlanks, Text.isBlank])
  have hafter : dropBlanks (' ' :: text) = text := by
    cases text with
    | nil => rfl
    | cons c text => exact dropBlanks_cons (htext c rfl) text
  obtain ⟨c, cs, hcs, hc⟩ := key.eq_cons
  have htrivia : dropTrivia false (key.text.toList ++ ' ' :: '=' :: ' ' :: text) =
      some (key.text.toList ++ ' ' :: '=' :: ' ' :: text) := by
    rw [hcs]
    exact dropTrivia_of_isKeyChar hc _
  have hbracket : c ≠ '[' := ne_of_isKeyChar hc rfl
  rw [readFrom, htrivia]
  -- A key does not begin with a bracket, which leaves the last of the five cases.
  split
  · contradiction
  · rename_i heq
    simp [hcs] at heq
  · rename_i heq
    simp [hcs, hbracket] at heq
  · rename_i heq
    simp [hcs, hbracket] at heq
  · rename_i heq
    obtain rfl := Option.some.inj heq
    simp only [hkey, hafter, List.length_cons]
    cases Statement.value (text.length + 2) 0 text with
    | none => rfl
    | some read =>
      obtain ⟨v, after⟩ := read
      cases hend : dropLineEnd false after <;> simp [hend]

private theorem readFrom_assignment (found : List Statement) (fuel : Nat) (key : BareKey)
    (v : Plain) (rest : List Char) :
    readFrom found (fuel + 1) (key.text.toList ++ ' ' :: '=' :: ' ' :: (v.chars ++ '\n' :: rest)) =
      readFrom (.assignment [key.text] v.value :: found) fuel rest := by
  have hhead : ∀ c ∈ (v.chars ++ '\n' :: rest).head?, Text.isBlank c = false := by
    obtain ⟨d, ds, hds, hd⟩ := isBlank_head?_chars v ('\n' :: rest)
    simpa [hds] using hd
  rw [readFrom_key found fuel key hhead, value_plain]
  rfl

private theorem readFrom_header (found : List Statement) (fuel : Nat) (key : BareKey)
    (rest : List Char) :
    readFrom found (fuel + 1) ('\n' :: '[' :: (key.text.toList ++ ']' :: '\n' :: rest)) =
      readFrom (.header [key.text] :: found) fuel rest := by
  have hkey : Statement.key (key.text.toList ++ ']' :: '\n' :: rest) =
      some ([key.text], ']' :: '\n' :: rest) :=
    key_append key (by simp; rfl) (by simp [dropBlanks, Text.isBlank])
  obtain ⟨c, cs, hcs, hc⟩ := key.eq_cons
  have hbracket : c ≠ '[' := ne_of_isKeyChar hc rfl
  have htrivia : dropTrivia false ('\n' :: '[' :: (key.text.toList ++ ']' :: '\n' :: rest)) =
      some ('[' :: (key.text.toList ++ ']' :: '\n' :: rest)) := by
    simp [dropTrivia, Text.isBlank]
  rw [readFrom, htrivia]
  split
  · contradiction
  · rename_i heq
    exact absurd (Option.some.inj heq) (List.cons_ne_nil _ _)
  · rename_i heq
    simp [hcs, hbracket] at heq
  · rename_i heq
    obtain rfl := (List.cons.inj (Option.some.inj heq)).2
    rw [hkey]
    rfl
  · rename_i hheader heq
    exact absurd (Option.some.inj heq).symm (hheader _)

private theorem readFrom_arrayHeader (found : List Statement) (fuel : Nat) (key : BareKey)
    (rest : List Char) :
    readFrom found (fuel + 1)
        ('\n' :: '[' :: '[' :: (key.text.toList ++ ']' :: ']' :: '\n' :: rest)) =
      readFrom (.arrayHeader [key.text] :: found) fuel rest := by
  have hkey : Statement.key (key.text.toList ++ ']' :: ']' :: '\n' :: rest) =
      some ([key.text], ']' :: ']' :: '\n' :: rest) :=
    key_append key (by simp; rfl) (by simp [dropBlanks, Text.isBlank])
  have htrivia :
      dropTrivia false ('\n' :: '[' :: '[' :: (key.text.toList ++ ']' :: ']' :: '\n' :: rest)) =
      some ('[' :: '[' :: (key.text.toList ++ ']' :: ']' :: '\n' :: rest)) := by
    simp [dropTrivia, Text.isBlank]
  rw [readFrom, htrivia]
  simp only [hkey, dropLineEnd]

theorem readFrom_line (found : List Statement) (fuel : Nat) (line : Line) (rest : List Char) :
    readFrom found (fuel + 1) (line.chars ++ rest) =
      readFrom (line.statement :: found) fuel rest := by
  cases line with
  | assignment key v =>
    simpa [Line.chars, Line.statement] using readFrom_assignment found fuel key v rest
  | header key => simpa [Line.chars, Line.statement] using readFrom_header found fuel key rest
  | arrayHeader key =>
    simpa [Line.chars, Line.statement] using readFrom_arrayHeader found fuel key rest

theorem readFrom_lines_append (ls : List Line) (found : List Statement) (fuel : Nat)
    (rest : List Char) :
    readFrom found (fuel + ls.length) (ls.flatMap Line.chars ++ rest) =
      readFrom ((ls.map Line.statement).reverse ++ found) fuel rest := by
  induction ls generalizing found with
  | nil => rfl
  | cons line ls ih =>
    rw [List.flatMap_cons, List.append_assoc, List.length_cons, ← Nat.add_assoc, readFrom_line, ih]
    simp

private theorem readFrom_lines (ls : List Line) (found : List Statement) {fuel : Nat}
    (hfuel : ls.length < fuel) :
    readFrom found fuel (ls.flatMap Line.chars) =
      some (found.reverse ++ ls.map Line.statement) := by
  obtain ⟨more, rfl⟩ : ∃ more, fuel = more + 1 + ls.length := ⟨fuel - ls.length - 1, by omega⟩
  have hread := readFrom_lines_append ls found (more + 1) []
  rw [List.append_nil] at hread
  rw [hread]
  simp [readFrom, dropTrivia]

private theorem chars_eq_cons (line : Line) : ∃ c cs, line.chars = c :: cs ∧ c ≠ '\uFEFF' := by
  have hkey (key : BareKey) (tail : List Char) :
      ∃ c cs, key.text.toList ++ tail = c :: cs ∧ c ≠ '\uFEFF' := by
    obtain ⟨c, cs, hcs, hc⟩ := key.eq_cons
    exact ⟨c, cs ++ tail, by rw [hcs]; rfl, ne_of_isKeyChar hc rfl⟩
  cases line with
  | assignment key v => simpa [Line.chars] using hkey key _
  | header key => exact ⟨'\n', _, rfl, by decide⟩
  | arrayHeader key => exact ⟨'\n', _, rfl, by decide⟩

private theorem length_le_length_chars (ls : List Line) :
    ls.length ≤ (ls.flatMap Line.chars).length := by
  induction ls with
  | nil => exact Nat.le_refl 0
  | cons line ls ih =>
    obtain ⟨c, cs, hcs, -⟩ := chars_eq_cons line
    rw [List.flatMap_cons, hcs, List.length_append, List.length_cons, List.length_cons]
    omega

theorem read?_cons {c : Char} (hc : c ≠ '\uFEFF') (cs : List Char) :
    read? (c :: cs) = readFrom [] ((c :: cs).length + 1) (c :: cs) := by
  unfold read?
  split
  · rename_i heq
    exact absurd (List.cons.inj heq).1 hc
  · rfl

/-- A document that is made of lines is read as what the lines say. -/
theorem read?_lines (ls : List Line) :
    read? (ls.flatMap Line.chars) = some (ls.map Line.statement) := by
  have hread : read? (ls.flatMap Line.chars) =
      readFrom [] ((ls.flatMap Line.chars).length + 1) (ls.flatMap Line.chars) := by
    cases ls with
    | nil => rfl
    | cons line ls =>
      obtain ⟨c, cs, hcs, hc⟩ := chars_eq_cons line
      rw [List.flatMap_cons, hcs, List.cons_append, read?_cons hc]
  -- There is one step of fuel for each character, and no line is empty.
  rw [hread]
  exact readFrom_lines ls [] (Nat.lt_succ_of_le (length_le_length_chars ls))

end Statement

end PxeLaunch.Toml

import Mathlib.Tactic.SplitIfs
import PxeLaunch.Toml.Text

/-!
Strings that are written and read. A basic string can hold any text; a literal string only text
without quotes of its own and without control characters, and one of several lines no three quotes
in a row. Main statement: reading what was written gives the string, whatever the style.
-/

set_option autoImplicit false

namespace PxeLaunch.Toml.Text

/-! ### Characters -/

private theorem toNat_lt_of_isControl {c : Char} (h : isControl c = true) : c.toNat < 128 := by
  simp only [isControl, Bool.or_eq_true, Bool.and_eq_true, decide_eq_true_eq] at h
  omega

private theorem isPlain_of_not_isControl {c : Char} (h : isControl c = false) (hn : c ≠ '\n') :
    isPlain c = true := by
  by_cases ht : c = '\t'
  · simp [isPlain, ht]
  · simp [isControl, ht, hn] at h
    simp [isPlain, h]

private theorem hexValue?_upperHex :
    ∀ n < 128, hexValue? ['0', '0', upperHex (n / 16), upperHex (n % 16)] = some n := by
  decide

/-- The text after the backslash of an escape that stands for a character. It does not look like the
end of a line, which a backslash may join to the next one. -/
structure Escapes (e : List Char) (c : Char) : Prop where
  escape : ∀ rest, escape? (e ++ rest) = some (c, e.length)
  noNewline : ∀ rest, newline? ((e ++ rest).dropWhile isBlank) = none

private theorem escapes_singleton {e c : Char} (hescape : ∀ rest, escape? (e :: rest) = some (c, 1))
    (hblank : isBlank e = false) (hn : e ≠ '\n') (hr : e ≠ '\r') : Escapes [e] c where
  escape := hescape
  noNewline rest := by simp [hblank, newline?, hn, hr]

private theorem escapes_control {c : Char} (h : isControl c = true) :
    Escapes ['u', '0', '0', upperHex (c.toNat / 16), upperHex (c.toNat % 16)] c where
  escape rest := by
    have hlt := toNat_lt_of_isControl h
    have hchar : charOf? c.toNat = some c := by
      simp [charOf?, Nat.lt_trans hlt (by decide : 128 < 0xD800)]
    simp [escape?, codePoint?, hexValue?_upperHex c.toNat hlt, hchar]
  noNewline rest := rfl

private theorem escapeChar_cases (long : Bool) {c : Char} (hquote : long = true → c ≠ '"') :
    (∃ e, escapeChar long c = '\\' :: e ∧ Escapes e c) ∨
      (long = true ∧ c = '\n' ∧ escapeChar long c = ['\n']) ∨
      (escapeChar long c = [c] ∧ isBasic c = true ∧ c ≠ '\n' ∧ c ≠ '\r' ∧ c ≠ '\\' ∧ c ≠ '"') := by
  unfold escapeChar
  split
  · subst_vars
    exact .inl ⟨['b'], rfl, escapes_singleton (fun _ => rfl) rfl (by decide) (by decide)⟩
  split
  · subst_vars
    exact .inl ⟨['t'], rfl, escapes_singleton (fun _ => rfl) rfl (by decide) (by decide)⟩
  split
  · subst_vars
    exact .inl ⟨['f'], rfl, escapes_singleton (fun _ => rfl) rfl (by decide) (by decide)⟩
  split
  · subst_vars
    exact .inl ⟨['r'], rfl, escapes_singleton (fun _ => rfl) rfl (by decide) (by decide)⟩
  split
  · subst_vars
    exact .inl ⟨['\\'], rfl, escapes_singleton (fun _ => rfl) rfl (by decide) (by decide)⟩
  split
  · subst_vars
    cases long with
    | false => exact .inl ⟨['n'], rfl, escapes_singleton (fun _ => rfl) rfl (by decide) (by decide)⟩
    | true => exact .inr (.inl ⟨rfl, rfl, rfl⟩)
  split
  · subst_vars
    cases long with
    | false => exact .inl ⟨['"'], rfl, escapes_singleton (fun _ => rfl) rfl (by decide) (by decide)⟩
    | true => exact absurd rfl (hquote rfl)
  split
  · rename_i hcontrol
    exact .inl ⟨_, rfl, escapes_control hcontrol⟩
  · rename_i hcontrol
    have hplain := isPlain_of_not_isControl (by simpa using hcontrol) ‹c ≠ '\n'›
    refine .inr (.inr ⟨rfl, ?_, ‹_›, ‹_›, ‹_›, ‹_›⟩)
    simp [isBasic, *]

/-! ### Basic strings -/

private theorem basicFrom_skip (found e rest : List Char) :
    basicFrom found e.length (e ++ rest) = basicFrom found 0 rest := by
  induction e with
  | nil => rfl
  | cons c e ih => simpa [basicFrom] using ih

private theorem basicFrom_escapeChar (found : List Char) (c : Char) (rest : List Char) :
    basicFrom found 0 (escapeChar false c ++ rest) = basicFrom (c :: found) 0 rest := by
  rcases escapeChar_cases false (c := c) (by simp) with
    ⟨e, heq, he⟩ | ⟨h, -⟩ | ⟨heq, hbasic, -, -, hslash, hquote⟩
  · rw [heq]
    simp [basicFrom, he.escape, basicFrom_skip]
  · simp at h
  · rw [heq]
    simp [basicFrom, hbasic, hslash, hquote]

private theorem basicFrom_escapeFrom (found cs rest : List Char) (quotes : Nat) :
    basicFrom found 0 (escapeFrom false quotes cs ++ '"' :: rest) =
      some (found.reverse ++ cs, rest) := by
  induction cs generalizing found quotes with
  | nil => simp [escapeFrom, basicFrom]
  | cons c cs ih =>
    simp only [escapeFrom, Bool.false_and, Bool.false_eq_true, if_false, List.append_assoc]
    rw [basicFrom_escapeChar, ih]
    simp

/-- What is written for a character begins with a quote only if a quote stands for itself there. -/
private theorem head?_escapeFrom {long : Bool} {quotes : Nat} {c : Char}
    (h : long = true → c = '"' → quotes = 2) (cs rest : List Char) :
    (escapeFrom long quotes (c :: cs) ++ rest).head? ≠ some '"' := by
  by_cases hquote : long = true ∧ c = '"'
  · obtain ⟨rfl, rfl⟩ := hquote
    simp [escapeFrom, h rfl rfl]
  · have hcases := escapeChar_cases long (c := c) fun hl hc => hquote ⟨hl, hc⟩
    have hplain : (long && decide (c = '"')) = false := by simpa using hquote
    simp only [escapeFrom, hplain, Bool.false_eq_true, if_false]
    rcases hcases with ⟨e, heq, -⟩ | ⟨-, -, heq⟩ | ⟨heq, -, -, -, -, hne⟩
    · simp [heq]
    · simp [heq]
    · simp [heq, hne]

theorem delimiter?_eq_none_of_head? {quote : Char} {text : List Char}
    (h : text.head? ≠ some quote) : delimiter? quote text = none := by
  match text with
  | [] => rfl
  | [_] => rfl
  | a :: _ :: _ =>
    have ha : a ≠ quote := by simpa using h
    simp [delimiter?, ha]

theorem delimiter?_eq_none_of_head?_tail {quote a : Char} {text : List Char}
    (h : text.head? ≠ some quote) : delimiter? quote (a :: text) = none := by
  cases text with
  | nil => rfl
  | cons b text =>
    have hb : b ≠ quote := by simpa using h
    simp [delimiter?, hb]

private theorem delimiter?_quotes (quote : Char) (rest : List Char) :
    delimiter? quote (quote :: quote :: rest) = some rest := by
  simp [delimiter?]

/-! ### The end of a string of several lines -/

private theorem closing_of_head? {quote : Char} {rest : List Char} (h : rest.head? ≠ some quote)
    (found : List Char) : closing quote found rest = (found.reverse, rest) := by
  match rest with
  | [] => rfl
  | [a] =>
    have ha : a ≠ quote := by simpa using h
    simp [closing, ha]
  | a :: _ :: _ =>
    have ha : a ≠ quote := by simpa using h
    simp [closing, ha]

private theorem closing_quote {quote : Char} {rest : List Char} (h : rest.head? ≠ some quote)
    (found : List Char) :
    closing quote found (quote :: rest) = (found.reverse ++ [quote], rest) := by
  cases rest with
  | nil => simp [closing]
  | cons b rest =>
    have hb : b ≠ quote := by simpa using h
    simp [closing, hb]

private theorem closing_two_quotes (quote : Char) (found rest : List Char) :
    closing quote found (quote :: quote :: rest) = (found.reverse ++ [quote, quote], rest) := by
  simp [closing]

/-! ### Basic strings of several lines -/

private theorem longBasicFrom_skip (found e rest : List Char) :
    longBasicFrom found false e.length (e ++ rest) = longBasicFrom found false 0 rest := by
  induction e with
  | nil => rfl
  | cons c e ih => simpa [longBasicFrom] using ih

private theorem longBasicFrom_cons (found : List Char) (c : Char) (rest : List Char) :
    longBasicFrom found false 0 (c :: rest) =
      if c = '"' then
        match delimiter? '"' rest with
        | some after => some (closing '"' found after)
        | none => longBasicFrom ('"' :: found) false 0 rest
      else if c = '\\' then
        match newline? (rest.dropWhile isBlank) with
        | some n => longBasicFrom found true ((rest.takeWhile isBlank).length + n) rest
        | none =>
          match escape? rest with
          | some (e, n) => longBasicFrom (e :: found) false n rest
          | none => none
      else match newline? (c :: rest) with
        | some n => longBasicFrom ('\n' :: found) false (n - 1) rest
        | none => if isBasic c then longBasicFrom (c :: found) false 0 rest else none := rfl

private theorem longBasicFrom_escape {e : List Char} {c : Char} (he : Escapes e c)
    (found rest : List Char) :
    longBasicFrom found false 0 ('\\' :: (e ++ rest)) =
      longBasicFrom (c :: found) false 0 rest := by
  simp [longBasicFrom_cons, he.escape, he.noNewline, longBasicFrom_skip]

private theorem longBasicFrom_escapeChar (found : List Char) {c : Char} (hquote : c ≠ '"')
    (rest : List Char) :
    longBasicFrom found false 0 (escapeChar true c ++ rest) =
      longBasicFrom (c :: found) false 0 rest := by
  rcases escapeChar_cases true (c := c) (fun _ => hquote) with
    ⟨e, heq, he⟩ | ⟨-, rfl, heq⟩ | ⟨heq, hbasic, hn, hr, hslash, -⟩
  · rw [heq]
    exact longBasicFrom_escape he found rest
  · simp [heq, longBasicFrom_cons, newline?]
  · simp [heq, longBasicFrom_cons, newline?, hbasic, hn, hr, hslash, hquote]

private theorem longBasicFrom_quote {text : List Char} (h : delimiter? '"' text = none)
    (found : List Char) :
    longBasicFrom found false 0 ('"' :: text) = longBasicFrom ('"' :: found) false 0 text := by
  simp [longBasicFrom_cons, h]

private theorem longBasicFrom_delimiter (found rest : List Char) :
    longBasicFrom found false 0 ('"' :: '"' :: '"' :: rest) = some (closing '"' found rest) := by
  simp [longBasicFrom_cons, delimiter?]

private theorem delimiter?_escapeFrom_long (quotes : Nat) (hquotes : quotes ≤ 1)
    (cs rest : List Char) :
    cs = [] ∨ (cs = ['"'] ∧ quotes = 0) ∨
      delimiter? '"' (escapeFrom true (quotes + 1) cs ++ '"' :: '"' :: '"' :: rest) = none := by
  rcases cs with _ | ⟨d, cs⟩
  · exact .inl rfl
  by_cases hd : d = '"' → quotes + 1 = 2
  · exact .inr (.inr (delimiter?_eq_none_of_head? (head?_escapeFrom (fun _ => hd) cs _)))
  · obtain ⟨rfl, hfirst⟩ := Classical.not_imp.mp hd
    have hzero : quotes = 0 := by omega
    subst hzero
    rcases cs with _ | ⟨e, cs⟩
    · exact .inr (.inl ⟨rfl, rfl⟩)
    · refine .inr (.inr ?_)
      have hhead : (escapeFrom true 2 (e :: cs) ++ '"' :: '"' :: '"' :: rest).head? ≠ some '"' :=
        head?_escapeFrom (fun _ _ => rfl) cs _
      simpa [escapeFrom] using delimiter?_eq_none_of_head?_tail (a := '"') hhead

/-- The inside of a basic string of several lines is read up to the three quotes after it. Quotes at
its end run into the delimiter, but there are at most two of them. -/
private theorem longBasicFrom_escapeFrom (found cs : List Char) {quotes : Nat}
    (hquotes : quotes ≤ 2) {rest : List Char} (hrest : rest.head? ≠ some '"') :
    longBasicFrom found false 0 (escapeFrom true quotes cs ++ '"' :: '"' :: '"' :: rest) =
      some (found.reverse ++ cs, rest) := by
  induction cs generalizing found quotes with
  | nil =>
    simp only [escapeFrom, List.nil_append, List.append_nil]
    rw [longBasicFrom_delimiter, closing_of_head? hrest]
  | cons c cs ih =>
    by_cases hc : c = '"'
    · subst hc
      -- The third quote in a row is escaped; the first two stand for themselves.
      by_cases htwo : quotes = 2
      · subst htwo
        have hescape : Escapes ['"'] '"' :=
          escapes_singleton (fun _ => rfl) rfl (by decide) (by decide)
        have hstep := longBasicFrom_escape hescape found
          (escapeFrom true 0 cs ++ '"' :: '"' :: '"' :: rest)
        simp only [List.cons_append, List.nil_append] at hstep
        simp only [escapeFrom, decide_true, Bool.and_self, if_true, List.cons_append]
        rw [hstep, ih _ (Nat.zero_le 2)]
        simp
      · have hone : quotes ≤ 1 := by omega
        simp only [escapeFrom, decide_true, Bool.and_self, if_true, htwo, if_false,
          List.cons_append]
        -- Only the last one or two characters can make a delimiter together with the quotes behind.
        rcases delimiter?_escapeFrom_long quotes hone cs rest with rfl | ⟨rfl, rfl⟩ | hnone
        · simp only [escapeFrom, List.nil_append]
          rw [longBasicFrom_delimiter, closing_quote hrest]
        · simp only [escapeFrom, decide_true, Bool.and_self, if_true, List.cons_append,
            List.nil_append, Nat.reduceAdd, Nat.reduceEqDiff, if_false]
          rw [longBasicFrom_delimiter, closing_two_quotes]
        · rw [longBasicFrom_quote hnone, ih _ (Nat.succ_le_succ hone)]
          simp
    · simp only [escapeFrom, hc, decide_false, Bool.and_false, Bool.false_eq_true, if_false,
        List.append_assoc]
      rw [longBasicFrom_escapeChar found hc, ih _ (Nat.zero_le 2)]
      simp

/-! ### Literal strings -/

private theorem literalFrom_append (found : List Char) {cs : List Char}
    (hcs : ∀ c ∈ cs, isLiteral c = true) (rest : List Char) :
    literalFrom found (cs ++ '\'' :: rest) = some (found.reverse ++ cs, rest) := by
  induction cs generalizing found with
  | nil => simp [literalFrom]
  | cons c cs ih =>
    obtain ⟨hc, hcs⟩ := List.forall_mem_cons.mp hcs
    have hquote : c ≠ '\'' := by
      rintro rfl
      simp [isLiteral] at hc
    simp [literalFrom, hquote, hc, ih _ hcs]

/-! ### Literal strings of several lines -/

private theorem le_longestRun (c : Char) (current : Nat) (cs : List Char) :
    current ≤ longestRun c current cs := by
  induction cs generalizing current with
  | nil => exact Nat.le_refl current
  | cons d cs ih =>
    simp only [longestRun]
    split
    · have := ih (current + 1)
      omega
    · exact Nat.le_max_left _ _

private theorem isLiteral_of_not_isControl {c : Char} (h : isControl c = false) (hn : c ≠ '\n')
    (hquote : c ≠ '\'') : isLiteral c = true := by
  simp [isLiteral, isPlain_of_not_isControl h hn, hquote]

private theorem ne_carriageReturn_of_not_isControl {c : Char} (h : isControl c = false) :
    c ≠ '\r' := by
  rintro rfl
  simp [isControl] at h

private theorem longLiteralFrom_of_ne {c : Char} (hcontrol : isControl c = false)
    (hquote : c ≠ '\'') (found rest : List Char) :
    longLiteralFrom found 0 (c :: rest) = longLiteralFrom (c :: found) 0 rest := by
  have hr := ne_carriageReturn_of_not_isControl hcontrol
  by_cases hn : c = '\n'
  · subst hn
    simp [longLiteralFrom, newline?]
  · have hliteral := isLiteral_of_not_isControl hcontrol hn hquote
    simp [longLiteralFrom, newline?, hn, hr, hquote, hliteral]

private theorem longLiteralFrom_quote {text : List Char} (h : delimiter? '\'' text = none)
    (found : List Char) :
    longLiteralFrom found 0 ('\'' :: text) = longLiteralFrom ('\'' :: found) 0 text := by
  simp [longLiteralFrom, h]

private theorem longLiteralFrom_delimiter (found rest : List Char) :
    longLiteralFrom found 0 ('\'' :: '\'' :: '\'' :: rest) = some (closing '\'' found rest) := by
  simp [longLiteralFrom, delimiter?]

private theorem delimiter?_of_longestRun {quotes : Nat} {cs : List Char}
    (hrun : longestRun '\'' (quotes + 1) cs < 3) (rest : List Char) :
    cs = [] ∨ cs = ['\''] ∨ delimiter? '\'' (cs ++ '\'' :: '\'' :: '\'' :: rest) = none := by
  rcases cs with _ | ⟨d, cs⟩
  · exact .inl rfl
  by_cases hd : d = '\''
  · subst hd
    rcases cs with _ | ⟨e, cs⟩
    · exact .inr (.inl rfl)
    · have he : e ≠ '\'' := by
        rintro rfl
        have hle := le_longestRun '\'' (quotes + 1 + 1 + 1) cs
        simp only [longestRun, if_true] at hrun
        omega
      exact .inr (.inr (delimiter?_eq_none_of_head?_tail (by simpa using he)))
  · exact .inr (.inr (delimiter?_eq_none_of_head? (by simpa using hd)))

private theorem longLiteralFrom_append (found : List Char) {cs : List Char}
    (hcs : ∀ c ∈ cs, isControl c = false) {quotes : Nat} (hrun : longestRun '\'' quotes cs < 3)
    {rest : List Char} (hrest : rest.head? ≠ some '\'') :
    longLiteralFrom found 0 (cs ++ '\'' :: '\'' :: '\'' :: rest) =
      some (found.reverse ++ cs, rest) := by
  induction cs generalizing found quotes with
  | nil =>
    simp only [List.nil_append, List.append_nil]
    rw [longLiteralFrom_delimiter, closing_of_head? hrest]
  | cons c cs ih =>
    obtain ⟨hc, htail⟩ := List.forall_mem_cons.mp hcs
    by_cases hquote : c = '\''
    · subst hquote
      simp only [longestRun, if_true] at hrun
      rcases delimiter?_of_longestRun hrun rest with rfl | rfl | hnone
      · simp only [List.cons_append, List.nil_append]
        rw [longLiteralFrom_delimiter, closing_quote hrest]
      · simp only [List.cons_append, List.nil_append]
        rw [longLiteralFrom_delimiter, closing_two_quotes]
      · rw [List.cons_append, longLiteralFrom_quote hnone, ih _ htail hrun]
        simp
    · have hrun' : longestRun '\'' 0 cs < 3 := by
        simp only [longestRun, hquote, if_false] at hrun
        omega
      rw [List.cons_append, longLiteralFrom_of_ne hc hquote, ih _ htail hrun']
      simp

/-! ### Written strings -/

private theorem dropNewline_openingNewline {cs body : List Char}
    (h : '\n' ∉ cs → newline? body = none) : dropNewline (openingNewline cs ++ body) = body := by
  by_cases hn : '\n' ∈ cs
  · simp [openingNewline, hn, dropNewline, newline?]
  · simp [openingNewline, hn, dropNewline, h hn]

private theorem read?_basic (cs : List Char) {rest : List Char} (hrest : rest.head? ≠ some '"') :
    read? ('"' :: (escapeFrom false 0 cs ++ '"' :: rest)) = some (cs, rest) := by
  have hnone : delimiter? '"' (escapeFrom false 0 cs ++ '"' :: rest) = none := by
    cases cs with
    | nil => exact delimiter?_eq_none_of_head?_tail hrest
    | cons c cs => exact delimiter?_eq_none_of_head? (head?_escapeFrom (by simp) cs _)
  simp [read?, hnone, basicFrom_escapeFrom]

private theorem read?_literal {cs : List Char} (hcs : ∀ c ∈ cs, isLiteral c = true)
    {rest : List Char} (hrest : rest.head? ≠ some '\'') :
    read? ('\'' :: (cs ++ '\'' :: rest)) = some (cs, rest) := by
  have hnone : delimiter? '\'' (cs ++ '\'' :: rest) = none := by
    cases cs with
    | nil => exact delimiter?_eq_none_of_head?_tail hrest
    | cons c cs =>
      refine delimiter?_eq_none_of_head? ?_
      rintro ⟨⟩
      simpa [isLiteral] using hcs '\'' (by simp)
  simp [read?, hnone, literalFrom_append [] hcs]

private theorem read?_longBasic (cs : List Char) {rest : List Char}
    (hrest : rest.head? ≠ some '"') :
    read? ('"' :: '"' :: '"' :: (openingNewline cs ++
      (escapeFrom true 0 cs ++ '"' :: '"' :: '"' :: rest))) = some (cs, rest) := by
  have hdrop : dropNewline (openingNewline cs ++
      (escapeFrom true 0 cs ++ '"' :: '"' :: '"' :: rest)) =
      escapeFrom true 0 cs ++ '"' :: '"' :: '"' :: rest := by
    refine dropNewline_openingNewline fun hn => ?_
    cases cs with
    | nil => rfl
    | cons c cs =>
      have hc : c ≠ '\n' := fun h => hn (by simp [h])
      by_cases hquote : c = '"'
      · simp [escapeFrom, hquote, newline?]
      · simp only [escapeFrom, hquote, decide_false, Bool.and_false, Bool.false_eq_true, if_false]
        rcases escapeChar_cases true (c := c) (fun _ => hquote) with
          ⟨e, heq, -⟩ | ⟨-, hn, -⟩ | ⟨heq, -, -, hr, -⟩
        · simp [heq, newline?]
        · exact absurd hn hc
        · simp [heq, newline?, hc, hr]
  simp [read?, delimiter?_quotes, hdrop, longBasicFrom_escapeFrom [] cs (Nat.zero_le 2) hrest]

private theorem read?_longLiteral {cs : List Char} (hcs : ∀ c ∈ cs, isControl c = false)
    (hrun : longestRun '\'' 0 cs < 3) {rest : List Char} (hrest : rest.head? ≠ some '\'') :
    read? ('\'' :: '\'' :: '\'' :: (openingNewline cs ++
      (cs ++ '\'' :: '\'' :: '\'' :: rest))) = some (cs, rest) := by
  have hdrop : dropNewline (openingNewline cs ++ (cs ++ '\'' :: '\'' :: '\'' :: rest)) =
      cs ++ '\'' :: '\'' :: '\'' :: rest := by
    refine dropNewline_openingNewline fun hn => ?_
    cases cs with
    | nil => rfl
    | cons c cs =>
      have hr := ne_carriageReturn_of_not_isControl (hcs c (by simp))
      have hc : c ≠ '\n' := fun h => hn (by simp [h])
      simp [newline?, hc, hr]
  simp [read?, delimiter?_quotes, hdrop, longLiteralFrom_append [] hcs hrun hrest]

/-! ### Styles -/

private theorem isLiteral_of_styleOf {cs : List Char} (h : styleOf cs = .literal) :
    ∀ c ∈ cs, isLiteral c = true := by
  intro c hc
  have hcond : (!cs.any isControl && !cs.contains '\'' && !cs.contains '\n') = true := by
    revert h
    simp only [styleOf]
    split_ifs <;> simp_all
  simp only [Bool.and_eq_true, Bool.not_eq_true', List.any_eq_false, List.contains_eq_mem,
    decide_eq_false_iff_not] at hcond
  obtain ⟨⟨hcontrol, hquote⟩, hnewline⟩ := hcond
  refine isLiteral_of_not_isControl (by simpa using hcontrol c hc) ?_ ?_
  · rintro rfl
    exact hnewline hc
  · rintro rfl
    exact hquote hc

private theorem longestRun_of_styleOf {cs : List Char} (h : styleOf cs = .longLiteral) :
    (∀ c ∈ cs, isControl c = false) ∧ longestRun '\'' 0 cs < 3 := by
  have hcond : (!cs.any isControl && decide (longestRun '\'' 0 cs < 3)) = true := by
    revert h
    simp only [styleOf]
    split_ifs <;> simp_all
  simpa [List.any_eq_false] using hcond

/-- Reading what was written for a string gives the string. No quote may come right after it. -/
theorem read?_write (cs : List Char) {rest : List Char}
    (hrest : ∀ c ∈ rest.head?, c ≠ '"' ∧ c ≠ '\'') :
    read? (write cs ++ rest) = some (cs, rest) := by
  have hdouble : rest.head? ≠ some '"' := fun h => (hrest _ h).1 rfl
  have hsingle : rest.head? ≠ some '\'' := fun h => (hrest _ h).2 rfl
  unfold write
  split
  · simpa using read?_basic cs hdouble
  · rename_i hstyle
    simpa using read?_literal (isLiteral_of_styleOf hstyle) hsingle
  · simpa using read?_longBasic cs hdouble
  · rename_i hstyle
    obtain ⟨hcontrol, hrun⟩ := longestRun_of_styleOf hstyle
    simpa using read?_longLiteral hcontrol hrun hsingle

theorem write_eq_cons (cs : List Char) :
    ∃ body, write cs = '"' :: body ∨ write cs = '\'' :: body := by
  unfold write
  split
  · exact ⟨_, .inl rfl⟩
  · exact ⟨_, .inr rfl⟩
  · exact ⟨_, .inl rfl⟩
  · exact ⟨_, .inr rfl⟩

end PxeLaunch.Toml.Text

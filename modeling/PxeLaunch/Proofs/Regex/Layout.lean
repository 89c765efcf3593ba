import PxeLaunch.Proofs.Regex.Closure
import PxeLaunch.Proofs.Regex.Meaning

/-!
The layout of programs. The code of a node is entered at its start, and leads out of it to its end
only; that of a literal is entered at its first byte. So a program for text never leads, without
reading, to an instruction that waits for a byte in the middle of a character.
-/

set_option autoImplicit false

namespace PxeLaunch.Regex

namespace Node

/-! ### Sizes -/

private theorem copies_succ (code : Nat → List Instruction) (size start count : Nat) :
    copies code size start (count + 1) = code start ++ copies code size (start + size) count := by
  have hplace (k : Nat) : start + (k + 1) * size = start + size + k * size := by
    rw [Nat.succ_mul]
    omega
  simp [copies, List.range_succ_eq_map, List.flatMap_map, hplace]

private theorem length_copies {code : Nat → List Instruction} {size : Nat}
    (h : ∀ start, (code start).length = size) (start count : Nat) :
    (copies code size start count).length = count * size := by
  induction count generalizing start with
  | zero => simp [copies]
  | succ count ih => rw [copies_succ, List.length_append, h, ih, Nat.succ_mul, Nat.add_comm]

mutual

private theorem length_code (start : Nat) : ∀ n : Node, (n.code start).length = n.size
  | .empty | .byteClass _ | .charClass _ | .look _ => rfl
  | .bytes text => by rw [code, size, List.length_map]
  | .repetition body least (some most) greedy => by
    rw [code, size, List.length_append, length_copies (fun at_ => length_code at_ body),
      length_copies fun at_ => by rw [List.length_cons, length_code (at_ + 1) body]]
  | .repetition body least none greedy => by
    by_cases hleast : least = 0
    · simp [code, size, hleast, length_code (start + 1) body]
    · simp [code, size, hleast, length_copies (fun at_ => length_code at_ body)]
  | .capture index body => by simp [code, size, length_code (start + 1) body]
  | .alternation branches => length_codeOfBranches start branches
  | .concatenation parts => length_codeOfParts start parts

private theorem length_codeOfBranches (start : Nat) :
    ∀ ns : List Node, (codeOfBranches start ns).length = sizeOfBranches ns
  | [] => rfl
  | [n] => length_code start n
  | n :: m :: rest => by
    simp only [codeOfBranches, sizeOfBranches, List.length_cons, List.length_append,
      length_code (start + 1) n, length_codeOfBranches (start + n.size + 2) (m :: rest)]
    omega

private theorem length_codeOfParts (start : Nat) :
    ∀ ns : List Node, (codeOfParts start ns).length = sizeOfParts ns
  | [] => rfl
  | n :: rest => by
    rw [codeOfParts, sizeOfParts, List.length_append, length_code start n,
      length_codeOfParts (start + n.size) rest]

end

end Node

/-! ### Places that can be entered -/

/-- Whether an instruction may read a byte that continues a character. -/
def Instruction.ReadsInside : Instruction → Prop
  | .byte set => ∃ b : UInt8, Utf8.isContinuation b = true ∧ set.contains b.toNat = true
  | _ => False

section

variable {program : List Instruction}

/-- A place that a search may come to without reading. -/
def IsEntry (program : List Instruction) (pc : Nat) : Prop :=
  ∀ i, program[pc]? = some i → ¬i.ReadsInside

/-- Whether the instructions of a stretch lead to such places only. -/
def Flows (program : List Instruction) (start stop : Nat) : Prop :=
  ∀ pc i, start ≤ pc → pc < stop → program[pc]? = some i → ∀ t ∈ i.targets pc, IsEntry program t

private theorem Flows.trans {a b c : Nat} (h₁ : Flows program a b) (h₂ : Flows program b c) :
    Flows program a c := by
  intro pc i ha hc
  by_cases hb : pc < b
  · exact h₁ pc i ha hb
  · exact h₂ pc i (Nat.le_of_not_lt hb) hc

private theorem Flows.refl (a : Nat) : Flows program a a :=
  fun _ _ ha hb => absurd hb (Nat.not_lt_of_le ha)

private theorem Flows.single {pc : Nat} {i : Instruction} (hi : program[pc]? = some i)
    (h : ∀ t ∈ i.targets pc, IsEntry program t) : Flows program pc (pc + 1) := by
  intro q j hq hlt hj
  obtain rfl : q = pc := by omega
  rw [hi, Option.some.injEq] at hj
  exact hj ▸ h

private theorem IsEntry.of_some {pc : Nat} {i : Instruction} (hi : program[pc]? = some i)
    (h : ¬i.ReadsInside) : IsEntry program pc := by
  intro j hj
  rw [hi, Option.some.injEq] at hj
  exact hj ▸ h

def Holds (program : List Instruction) (start : Nat) (code : List Instruction) : Prop :=
  ∀ k i, code[k]? = some i → program[start + k]? = some i

private theorem holds_cons {start : Nat} {i : Instruction} {code : List Instruction} :
    Holds program start (i :: code) ↔
      program[start]? = some i ∧ Holds program (start + 1) code := by
  constructor
  · intro h
    refine ⟨h 0 i rfl, fun k j hk => ?_⟩
    rw [Nat.add_assoc, Nat.add_comm 1 k]
    exact h (k + 1) j hk
  · rintro ⟨hi, hrest⟩ k j hk
    cases k with
    | zero => exact hi.trans hk
    | succ k =>
      rw [← Nat.add_assoc, Nat.add_right_comm]
      exact hrest k j hk

private theorem holds_append {start : Nat} {front back : List Instruction} :
    Holds program start (front ++ back) ↔
      Holds program start front ∧ Holds program (start + front.length) back := by
  induction front generalizing start with
  | nil => simp [Holds]
  | cons i front ih =>
    rw [List.cons_append, holds_cons, ih, holds_cons, and_assoc, List.length_cons,
      Nat.add_right_comm, Nat.add_assoc]

/-- A code, wherever it stands in a program, that is entered at its start only and leads out of it
to its end only. -/
def Fits (program : List Instruction) (code : Nat → List Instruction) (size : Nat) : Prop :=
  ∀ start, Holds program start (code start) → IsEntry program (start + size) →
    IsEntry program start ∧ Flows program start (start + size)

private theorem Fits.copies {code : Nat → List Instruction} {size : Nat}
    (h : Fits program code size) (hlength : ∀ start, (code start).length = size) (start count : Nat)
    (hholds : Holds program start (Node.copies code size start count))
    (hexit : IsEntry program (start + count * size)) :
    (∀ k ≤ count, IsEntry program (start + k * size)) ∧
      Flows program start (start + count * size) := by
  induction count generalizing start with
  | zero =>
    refine ⟨fun k hk => ?_, ?_⟩
    · obtain rfl : k = 0 := Nat.le_zero.mp hk
      exact hexit
    · rw [Nat.zero_mul]
      exact .refl start
  | succ count ih =>
    have hplace (k : Nat) : start + (k + 1) * size = start + size + k * size := by
      rw [Nat.succ_mul]
      omega
    rw [Node.copies_succ, holds_append, hlength] at hholds
    rw [hplace] at hexit ⊢
    obtain ⟨hentries, hflows⟩ := ih (start + size) hholds.2 hexit
    obtain ⟨hentry, hflow⟩ := h start hholds.1 (by simpa using hentries 0 (Nat.zero_le count))
    refine ⟨fun k hk => ?_, hflow.trans hflows⟩
    cases k with
    | zero => simpa using hentry
    | succ k =>
      rw [hplace]
      exact hentries k (Nat.le_of_succ_le_succ hk)

private theorem Fits.choice {code : Nat → List Instruction} {size : Nat}
    (h : Fits program code size) (greedy : Bool) {past : Nat} (hpast : IsEntry program past) :
    Fits program (fun start => Node.choice greedy (start + 1) past :: code (start + 1))
      (size + 1) := by
  intro start hholds hexit
  obtain ⟨hchoice, hcode⟩ := holds_cons.mp hholds
  rw [Nat.add_comm size 1, ← Nat.add_assoc] at hexit ⊢
  obtain ⟨hentry, hflows⟩ := h (start + 1) hcode hexit
  refine ⟨.of_some hchoice ?_, (Flows.single hchoice ?_).trans hflows⟩
  · cases greedy <;> exact id
  · cases greedy <;> simp [Node.choice, Instruction.targets, hentry, hpast]

private theorem fits_nil : Fits program (fun _ => []) 0 :=
  fun start _ hexit => ⟨hexit, .refl start⟩

private theorem fits_single {i : Instruction} (hreads : ¬i.ReadsInside)
    (htargets : ∀ pc, ∀ t ∈ i.targets pc, t = pc + 1) : Fits program (fun _ => [i]) 1 := by
  intro start hholds hexit
  have hi := (holds_cons.mp hholds).1
  exact ⟨.of_some hi hreads, .single hi fun t ht => htargets start t ht ▸ hexit⟩

private theorem not_readsInside_of_isAscii {set : Unicode.RangeSet} (h : set.isAscii = true) :
    ¬(Instruction.byte set).ReadsInside := by
  rintro ⟨b, hb, hmem⟩
  obtain ⟨r, hr, hwithin⟩ := List.any_eq_true.mp hmem
  have hascii := List.all_eq_true.mp h r hr
  simp only [Bool.and_eq_true, decide_eq_true_eq] at hwithin hascii
  simp only [Utf8.isContinuation, Bool.and_eq_true, decide_eq_true_eq, UInt8.le_iff_toNat_le,
    UInt8.reduceToNat] at hb
  omega

private theorem fits_bytes (cs : List Char) :
    Fits program (fun start => (Node.bytes (Bytes.ofChars cs)).code start)
      (Node.bytes (Bytes.ofChars cs)).size := by
  intro start hholds hexit
  simp only [Node.code, Node.size] at hholds hexit ⊢
  have hflows : Flows program start (start + (Bytes.ofChars cs).length) := by
    intro pc i hstart hstop hi t ht
    have hlt : pc - start < (Bytes.ofChars cs).length := by omega
    have hplace := hholds (pc - start) _ (by
      rw [List.getElem?_map, List.getElem?_eq_getElem hlt, Option.map_some])
    rw [Nat.add_sub_cancel' hstart, hi, Option.some.injEq] at hplace
    rw [hplace] at ht
    simp [Instruction.targets] at ht
  refine ⟨?_, hflows⟩
  cases cs with
  | nil => exact hexit
  | cons c cs =>
    obtain ⟨lead, tail, hcons, hcharacter⟩ := Utf8.exists_ofChars_cons c cs
    rw [hcons, List.map_cons] at hholds
    refine .of_some (holds_cons.mp hholds).1 ?_
    rintro ⟨b, hb, hmem⟩
    have hsame : b = lead := by
      rw [← UInt8.toNat_inj]
      simp [Unicode.RangeSet.single, Unicode.RangeSet.contains] at hmem
      omega
    rw [hsame, hcharacter.begins] at hb
    exact absurd hb (by simp)

section

variable {body : Node} (hbody : Fits program (fun start => body.code start) body.size)

include hbody

private theorem fits_bounded (least most : Nat) (greedy : Bool) :
    Fits program (fun start => (Node.repetition body least (some most) greedy).code start)
      (Node.repetition body least (some most) greedy).size := by
  intro start hholds hexit
  simp only [Node.code, Node.size, ← Nat.add_assoc] at hholds hexit ⊢
  rw [holds_append, Node.length_copies fun at_ => Node.length_code at_ body] at hholds
  obtain ⟨hentries, hflows⟩ := (hbody.choice greedy hexit).copies
    (fun at_ => by rw [List.length_cons, Node.length_code (at_ + 1) body])
    (start + least * body.size) (most - least) hholds.2 hexit
  obtain ⟨hentries', hflows'⟩ := hbody.copies (fun at_ => Node.length_code at_ body) start least
    hholds.1 (by simpa using hentries 0 (Nat.zero_le _))
  exact ⟨by simpa using hentries' 0 (Nat.zero_le _), hflows'.trans hflows⟩

private theorem fits_star (greedy : Bool) :
    Fits program (fun start => (Node.repetition body 0 none greedy).code start)
      (Node.repetition body 0 none greedy).size := by
  intro start hholds hexit
  simp only [Node.code, Node.size, if_true] at hholds hexit ⊢
  obtain ⟨hopen, hrest⟩ := holds_cons.mp hholds
  rw [holds_append, Node.length_code (start + 1) body] at hrest
  have hclose := (holds_cons.mp hrest.2).1
  have hchoice (a b : Nat) : ¬(Node.choice greedy a b).ReadsInside := by cases greedy <;> exact id
  obtain ⟨hentry, hflows⟩ := hbody (start + 1) hrest.1 (.of_some hclose (hchoice _ _))
  have hends (pc : Nat) : ∀ t ∈ (Node.choice greedy (start + 1) (start + body.size + 2)).targets pc,
      IsEntry program t := by
    cases greedy <;> simp [Node.choice, Instruction.targets, hentry] <;> exact hexit
  refine ⟨.of_some hopen (hchoice _ _), (Flows.single hopen (hends _)).trans (hflows.trans ?_)⟩
  have hstop : start + (body.size + 2) = start + 1 + body.size + 1 := by omega
  rw [hstop]
  exact .single hclose (hends _)

private theorem fits_plus {least : Nat} (hleast : least ≠ 0) (greedy : Bool) :
    Fits program (fun start => (Node.repetition body least none greedy).code start)
      (Node.repetition body least none greedy).size := by
  intro start hholds hexit
  simp only [Node.code, Node.size, if_neg hleast, ← Nat.add_assoc] at hholds hexit ⊢
  rw [holds_append, Node.length_copies fun at_ => Node.length_code at_ body] at hholds
  have hclose := (holds_cons.mp hholds.2).1
  obtain ⟨hentries, hflows⟩ := hbody.copies (fun at_ => Node.length_code at_ body) start least
    hholds.1 (.of_some hclose (by cases greedy <;> exact id))
  refine ⟨by simpa using hentries 0 (Nat.zero_le _), hflows.trans (.single hclose ?_)⟩
  have hlast := hentries (least - 1) (Nat.sub_le _ _)
  have hpast : start + (least - 1) * body.size + body.size = start + least * body.size := by
    rw [Nat.add_assoc, ← Nat.succ_mul, Nat.succ_eq_add_one, Nat.sub_add_cancel
      (Nat.one_le_iff_ne_zero.mpr hleast)]
  rw [hpast]
  cases greedy <;> simp [Node.choice, Instruction.targets, hlast, hexit]

private theorem fits_capture (index : Nat) :
    Fits program (fun start => (Node.capture index body).code start)
      (Node.capture index body).size := by
  intro start hholds hexit
  simp only [Node.code, Node.size] at hholds hexit ⊢
  obtain ⟨hopen, hrest⟩ := holds_cons.mp hholds
  rw [holds_append, Node.length_code (start + 1) body] at hrest
  have hclose := (holds_cons.mp hrest.2).1
  have hstop : start + (body.size + 2) = start + 1 + body.size + 1 := by omega
  rw [hstop] at hexit ⊢
  obtain ⟨hentry, hflows⟩ := hbody (start + 1) hrest.1 (.of_some hclose id)
  exact ⟨.of_some hopen id, (Flows.single hopen (by simpa [Instruction.targets] using hentry)).trans
    (hflows.trans (.single hclose (by simpa [Instruction.targets] using hexit)))⟩

end

private theorem fits_branch {n m : Node} {rest : List Node}
    (hn : Fits program (fun start => n.code start) n.size)
    (hrest : Fits program (fun start => Node.codeOfBranches start (m :: rest))
      (Node.sizeOfBranches (m :: rest))) :
    Fits program (fun start => Node.codeOfBranches start (n :: m :: rest))
      (Node.sizeOfBranches (n :: m :: rest)) := by
  intro start hholds hexit
  have hstop : start + Node.sizeOfBranches (n :: m :: rest) =
      start + n.size + 2 + Node.sizeOfBranches (m :: rest) := by
    rw [Node.sizeOfBranches]
    · omega
    · simp
  simp only [Node.codeOfBranches, hstop] at hholds hexit ⊢
  obtain ⟨hsplit, hholds⟩ := holds_cons.mp hholds
  rw [holds_append, Node.length_code (start + 1) n] at hholds
  obtain ⟨hjump, hothers⟩ := holds_cons.mp hholds.2
  have hnext : start + 1 + n.size + 1 = start + n.size + 2 := by omega
  rw [hnext] at hothers
  obtain ⟨hentry', hflows'⟩ := hrest (start + n.size + 2) hothers hexit
  obtain ⟨hentry, hflows⟩ := hn (start + 1) hholds.1 (.of_some hjump id)
  refine ⟨.of_some hsplit id, (Flows.single hsplit ?_).trans (hflows.trans
    ((Flows.single hjump ?_).trans (hnext ▸ hflows')))⟩
  · simpa [Instruction.targets] using ⟨hentry, hentry'⟩
  · simpa [Instruction.targets] using hexit

private theorem fits_parts {n : Node} {rest : List Node}
    (hn : Fits program (fun start => n.code start) n.size)
    (hrest : Fits program (fun start => Node.codeOfParts start rest) (Node.sizeOfParts rest)) :
    Fits program (fun start => Node.codeOfParts start (n :: rest))
      (Node.sizeOfParts (n :: rest)) := by
  intro start hholds hexit
  simp only [Node.codeOfParts, Node.sizeOfParts, ← Nat.add_assoc] at hholds hexit ⊢
  rw [holds_append, Node.length_code start n] at hholds
  obtain ⟨hentry', hflows'⟩ := hrest (start + n.size) hholds.2 hexit
  obtain ⟨hentry, hflows⟩ := hn start hholds.1 hentry'
  exact ⟨hentry, hflows.trans hflows'⟩

mutual

private theorem fits_code : ∀ n : Node, n.IsText → Fits program (fun start => n.code start) n.size
  | .empty, _ => fits_nil
  | .bytes _, ⟨cs, rfl⟩ => fits_bytes cs
  | .byteClass _, h =>
    fits_single (not_readsInside_of_isAscii h) (by simp [Instruction.targets])
  | .charClass set, _ => fits_single id (by simp [Instruction.targets])
  | .look l, _ => fits_single id (by simp [Instruction.targets])
  | .repetition body least (some most) greedy, h =>
    fits_bounded (fits_code body h) least most greedy
  | .repetition body 0 none greedy, h => fits_star (fits_code body h) greedy
  | .repetition body (least + 1) none greedy, h =>
    fits_plus (fits_code body h) (Nat.succ_ne_zero least) greedy
  | .capture index body, h => fits_capture (fits_code body h) index
  | .alternation branches, h => fits_codeOfBranches branches h
  | .concatenation parts, h => fits_codeOfParts parts h

private theorem fits_codeOfBranches : ∀ ns : List Node, Node.AllText ns →
    Fits program (fun start => Node.codeOfBranches start ns) (Node.sizeOfBranches ns)
  | [], _ => fits_nil
  | [n], h => fits_code n h.1
  | n :: m :: rest, h => fits_branch (fits_code n h.1) (fits_codeOfBranches (m :: rest) h.2)

private theorem fits_codeOfParts : ∀ ns : List Node, Node.AllText ns →
    Fits program (fun start => Node.codeOfParts start ns) (Node.sizeOfParts ns)
  | [], _ => fits_nil
  | n :: rest, h => fits_parts (fits_code n h.1) (fits_codeOfParts rest h.2)

end

end

/-- The program of a node is entered at the beginnings of characters only. -/
theorem isEntry_ofNode {n : Node} (h : n.IsText) (names : List (String × Nat)) :
    IsEntry (Program.ofNode n names).code.toList 0 ∧
      ∀ (pc : Nat) (i : Instruction), (Program.ofNode n names).code.toList[pc]? = some i →
        ∀ t ∈ i.targets pc, IsEntry (Program.ofNode n names).code.toList t := by
  have hcode : (Program.ofNode n names).code.toList =
      .save 0 :: (n.code 1 ++ [.save 1, .accept]) := rfl
  rw [hcode]
  obtain ⟨hopen, hrest⟩ := holds_cons.mp
    (show Holds (.save 0 :: (n.code 1 ++ [.save 1, .accept])) 0
      (.save 0 :: (n.code 1 ++ [.save 1, .accept])) from fun k i hk => by simpa using hk)
  rw [holds_append, Node.length_code 1 n] at hrest
  obtain ⟨hclose, hlast⟩ := holds_cons.mp hrest.2
  have haccept := (holds_cons.mp hlast).1
  obtain ⟨hentry, hflows⟩ := fits_code n h 1 hrest.1 (.of_some hclose id)
  refine ⟨.of_some hopen id, fun pc i hi => ?_⟩
  have hlt : pc < n.size + 3 := by
    have hlength := (List.getElem?_eq_some_iff.mp hi).1
    simp [Node.length_code] at hlength
    omega
  have hall : Flows (.save 0 :: (n.code 1 ++ [.save 1, .accept])) 0 (1 + n.size + 1 + 1) :=
    ((Flows.single hopen (by simpa [Instruction.targets] using hentry)).trans hflows).trans
      ((Flows.single hclose (by simpa [Instruction.targets] using IsEntry.of_some haccept id)).trans
        (Flows.single haccept (by simp [Instruction.targets])))
  exact hall pc i (Nat.zero_le pc) (by omega) hi

end PxeLaunch.Regex

import PxeLaunch.Proofs.Regex.Closure
import PxeLaunch.Proofs.Text.Inside

/-!
One step of a search. An instruction reads some bytes or cannot read; a way of matching goes on at
the instruction behind it when these bytes have passed, or else it ends there. Main statements: what
a step does with the first of the ways.
-/

set_option autoImplicit false

namespace PxeLaunch.Regex

open PxeLaunch.Unicode (RangeSet)

variable {code : Array Instruction} {p : Position} {pc skip n : Nat} {i : Instruction} {t : Thread}

/-! ### Reading -/

def Instruction.reads (p : Position) : Instruction → Option Nat
  | .byte set =>
    match p.after with
    | b :: _ => if set.contains b.toNat then some 1 else none
    | [] => none
  | .char set =>
    match Utf8.first? p.after with
    | some (c, size) => if set.contains c.toNat then some size else none
    | none => none
  | _ => none

namespace Instruction

theorem reads_byte {set : RangeSet} : (byte set).reads p = some n ↔
    n = 1 ∧ ∃ b rest, p.after = b :: rest ∧ set.contains b.toNat = true := by
  unfold reads
  cases hafter : p.after with
  | nil => simp
  | cons b rest =>
    simp only [Option.ite_none_right_eq_some, Option.some.injEq, List.cons.injEq]
    constructor
    · rintro ⟨hmem, rfl⟩
      exact ⟨rfl, b, rest, ⟨rfl, rfl⟩, hmem⟩
    · rintro ⟨rfl, _, _, ⟨rfl, rfl⟩, hmem⟩
      exact ⟨hmem, rfl⟩

theorem reads_char {set : RangeSet} : (char set).reads p = some n ↔
    ∃ c, Utf8.first? p.after = some (c, n) ∧ set.contains c.toNat = true := by
  unfold reads
  cases hfirst : Utf8.first? p.after with
  | none => simp
  | some found =>
    obtain ⟨c, size⟩ := found
    simp only [Option.ite_none_right_eq_some, Option.some.injEq, Prod.mk.injEq]
    constructor
    · rintro ⟨hmem, rfl⟩
      exact ⟨c, ⟨rfl, rfl⟩, hmem⟩
    · rintro ⟨_, ⟨rfl, rfl⟩, hmem⟩
      exact ⟨hmem, rfl⟩

theorem waits_of_reads (h : i.reads p = some n) : i.waits = true := by
  cases i <;> first | rfl | simp [reads] at h

theorem bounds_of_reads (h : i.reads p = some n) : 0 < n ∧ n ≤ p.after.length := by
  cases i with
  | byte set =>
    obtain ⟨rfl, b, rest, hafter, -⟩ := reads_byte.mp h
    simp [hafter]
  | char set =>
    obtain ⟨c, hfirst, -⟩ := reads_char.mp h
    exact Utf8.bounds_of_first? hfirst
  | _ => simp [reads] at h

end Instruction

/-! ### Ways of matching -/

/-- Where a way of matching goes on after the next byte: the instruction, and how many bytes of a
character are still to come. -/
def Thread.next? (code : Array Instruction) (p : Position) (t : Thread) : Option (Nat × Nat) :=
  match t.skip with
  | 0 => (code[t.pc]?.bind (Instruction.reads p)).map fun n => (t.pc + 1, n - 1)
  | skip + 1 => some (t.pc, skip)

theorem Thread.next?_of_skip (h : t.skip = 0) :
    t.next? code p = (code[t.pc]?.bind (Instruction.reads p)).map fun n => (t.pc + 1, n - 1) := by
  rw [Thread.next?, h]

theorem Thread.skip_of_next? (h : t.next? code p = none) : t.skip = 0 := by
  cases hskip : t.skip with
  | zero => rfl
  | succ skip => simp [Thread.next?, hskip] at h

/-- Takes in a way that goes on at an instruction, maybe after some bytes. -/
def Frontier.receive (f : Frontier) (code : Array Instruction) (p : Position) (offset pc skip : Nat)
    (slots : Slots) : Frontier :=
  if skip = 0 then f.enter code p offset pc slots else f.wait ⟨pc, skip, slots⟩

theorem step_cons_of_accept (hskip : t.skip = 0) (haccept : code[t.pc]? = some .accept)
    (p next : Position) (offset : Nat) (rest : List Thread) (f : Frontier) :
    step code p next offset (t :: rest) f = (f, some t.slots) := by
  simp only [step, hskip, haccept]

theorem step_cons_of_next (h : t.next? code p = some (pc, skip)) (next : Position) (offset : Nat)
    (rest : List Thread) (f : Frontier) :
    step code p next offset (t :: rest) f =
      step code p next offset rest (f.receive code next (offset + 1) pc skip t.slots) := by
  obtain ⟨start, left, slots⟩ := t
  rcases left with _ | _ | left
  case succ.zero =>
    obtain ⟨rfl, rfl⟩ := Prod.mk.inj (Option.some.inj h)
    rw [step, Frontier.receive, if_pos rfl]
  case succ.succ =>
    obtain ⟨rfl, rfl⟩ := Prod.mk.inj (Option.some.inj h)
    rw [step, Frontier.receive, if_neg (Nat.succ_ne_zero left)]
  obtain ⟨n, hn, heq⟩ := Option.map_eq_some_iff.mp h
  obtain ⟨i, hi, hreads⟩ := Option.bind_eq_some_iff.mp hn
  obtain ⟨rfl, rfl⟩ := Prod.mk.inj heq
  have hi : code[start]? = some i := hi
  cases i with
  | byte set =>
    obtain ⟨rfl, b, more, hafter, hmem⟩ := Instruction.reads_byte.mp hreads
    simp only [step, hi, hafter, hmem, Frontier.receive, if_true]
  | char set =>
    obtain ⟨c, hfirst, hmem⟩ := Instruction.reads_char.mp hreads
    by_cases hsize : n = 1
    · simp only [step, hi, hfirst, hmem, hsize, Frontier.receive, if_true]
    · have hmore : n - 1 ≠ 0 := by
        have hpos := (Utf8.bounds_of_first? hfirst).1
        omega
      simp only [step, hi, hfirst, hmem, hsize, hmore, Frontier.receive, if_true, if_false]
  | _ => simp [Instruction.reads] at hreads

theorem step_cons_of_next_none (h : t.next? code p = none) (hopen : code[t.pc]? ≠ some .accept)
    (next : Position) (offset : Nat) (rest : List Thread) (f : Frontier) :
    step code p next offset (t :: rest) f = step code p next offset rest f := by
  have hskip := Thread.skip_of_next? h
  rw [Thread.next?_of_skip hskip, Option.map_eq_none_iff] at h
  cases hcode : code[t.pc]? with
  | none => simp only [step, hskip, hcode]
  | some i =>
    rw [hcode, Option.bind_some] at h
    cases i with
    | accept => exact absurd hcode hopen
    | byte set =>
      cases hafter : p.after with
      | nil => simp only [step, hskip, hcode, hafter]
      | cons b more =>
        have hmem : set.contains b.toNat = false := Bool.eq_false_iff.mpr fun hmem => by
          simp [Instruction.reads, hafter, hmem] at h
        simp only [step, hskip, hcode, hafter, hmem, Bool.false_eq_true, if_false]
    | char set =>
      cases hfirst : Utf8.first? p.after with
      | none => simp only [step, hskip, hcode, hfirst]
      | some found =>
        obtain ⟨c, size⟩ := found
        have hmem : set.contains c.toNat = false := Bool.eq_false_iff.mpr fun hmem => by
          simp [Instruction.reads, hfirst, hmem] at h
        simp only [step, hskip, hcode, hfirst, hmem, Bool.false_eq_true, if_false]
    | _ => simp only [step, hskip, hcode]

end PxeLaunch.Regex

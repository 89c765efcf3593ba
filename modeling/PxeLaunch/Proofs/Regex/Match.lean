import PxeLaunch.Proofs.Regex.Step
import PxeLaunch.Regex.Pattern

/-!
What a search finds. A pattern has a match at an offset of a text if there is a way through its
program, from the first instruction to one that accepts, that reads what comes after the offset.
Main statement: a search finds something exactly if there is such a way from some offset at which a
match may begin.
-/

set_option autoImplicit false

namespace PxeLaunch.Regex

/-! ### Ways through a program -/

def Position.advance (p : Position) (n : Nat) : Position :=
  ⟨(p.after.take n).reverse ++ p.before, p.after.drop n⟩

namespace Position

variable {p : Position}

@[simp] theorem advance_zero (p : Position) : p.advance 0 = p := rfl

private theorem advance_add (p : Position) (m n : Nat) :
    p.advance (m + n) = (p.advance m).advance n := by
  simp [advance, List.take_add]

@[simp] theorem length_after_advance (p : Position) (n : Nat) :
    (p.advance n).after.length = p.after.length - n :=
  List.length_drop

end Position

/-- A way through a program from an instruction on, at a position: it comes to an end without
reading, or it comes to an instruction that reads, and goes on after that. -/
inductive Accepts (code : Array Instruction) : Nat → Position → Prop
  | finish {pc stop : Nat} {p : Position} (reaches : Frontier.Reaches code p pc stop)
      (accepts : code[stop]? = some .accept) : Accepts code pc p
  | read {pc stop n : Nat} {p : Position} {i : Instruction}
      (reaches : Frontier.Reaches code p pc stop) (found : code[stop]? = some i)
      (reads : i.reads p = some n) (rest : Accepts code (stop + 1) (p.advance n)) :
      Accepts code pc p

/-- Whether a pattern has a match that begins at an offset of a text. -/
def Pattern.HasMatchAt (r : Pattern) (text : Bytes) (offset : Nat) : Prop :=
  offset ≤ text.length ∧ Accepts r.program.code 0 (Position.advance ⟨[], text⟩ offset)

section

variable {code : Array Instruction} {p : Position} {pc : Nat} {i : Instruction}

private theorem Accepts.of_targetsAt {t : Nat} (h : Accepts code t p) (hcode : code[pc]? = some i)
    (ht : t ∈ i.targetsAt p pc) : Accepts code pc p := by
  cases h with
  | finish reaches accepts => exact .finish (.head ⟨i, hcode, ht⟩ reaches) accepts
  | read reaches found reads rest => exact .read (.head ⟨i, hcode, ht⟩ reaches) found reads rest

theorem Accepts.exists_reaches_waits (h : Accepts code pc p) :
    ∃ stop i, Frontier.Reaches code p pc stop ∧ code[stop]? = some i ∧ i.waits = true := by
  cases h with
  | finish reaches accepts => exact ⟨_, _, reaches, accepts, rfl⟩
  | read reaches found reads _ => exact ⟨_, _, reaches, found, Instruction.waits_of_reads reads⟩

/-- No way through a program leads out of instructions that only lead to each other, if none of them
accepts or can read. -/
theorem not_accepts_of_closed {S : List Nat}
    (hclosed : ∀ q ∈ S, ∀ i ∈ code[q]?,
      (∀ t ∈ i.targetsAt p q, t ∈ S) ∧ i ≠ .accept ∧ i.reads p = none)
    (hpc : pc ∈ S) : ¬Accepts code pc p := by
  have hreach : ∀ {stop : Nat}, Frontier.Reaches code p pc stop → stop ∈ S := by
    intro stop hreaches
    induction hreaches with
    | refl => exact hpc
    | tail _ hstep ih =>
      obtain ⟨i, hi, ht⟩ := hstep
      exact (hclosed _ ih i hi).1 _ ht
  intro h
  cases h with
  | finish reaches accepts => exact (hclosed _ (hreach reaches) _ accepts).2.1 rfl
  | read reaches found reads _ =>
    have hnone := (hclosed _ (hreach reaches) _ found).2.2
    rw [reads] at hnone
    exact nomatch hnone

private theorem eq_of_reaches_of_waits {stop : Nat} (hcode : code[pc]? = some i)
    (hwaits : i.waits = true) (h : Frontier.Reaches code p pc stop) : stop = pc := by
  cases h.cases_head with
  | inl heq => exact heq.symm
  | inr hstep =>
    obtain ⟨t, ⟨j, hj, ht⟩, -⟩ := hstep
    obtain rfl : i = j := Option.some.inj (hcode.symm.trans hj)
    cases i <;> simp [Instruction.waits, Instruction.targetsAt, Instruction.targets] at hwaits ht

/-! ### Ways of matching -/

def Thread.Accepts (code : Array Instruction) (p : Position) (t : Thread) : Prop :=
  Regex.Accepts code t.pc (p.advance t.skip)

/-- A way of matching that can be brought to an end within the text, and has not been lost. -/
structure Thread.IsAlive (code : Array Instruction) (p : Position) (t : Thread) : Prop where
  accepts : t.Accepts code p
  skip_le : t.skip ≤ p.after.length
  waits : t.skip = 0 → ∃ i, code[t.pc]? = some i ∧ i.waits = true

namespace Frontier

variable {f : Frontier} {offset skip : Nat} {slots : Slots} {t : Thread}

private theorem mem_threads_enter (h : t ∈ (f.enter code p offset pc slots).threads) :
    t ∈ f.threads ∨ t.skip = 0 ∧ (t.Accepts code p → Accepts code pc p) := by
  have hclosed : ∀ q i, (Accepts code q p → Accepts code pc p) → code[q]? = some i →
      ∀ t ∈ i.targetsAt p q, Accepts code t p → Accepts code pc p :=
    fun q i hq hcode t ht haccepts => hq (haccepts.of_targetsAt hcode ht)
  obtain ⟨new, hnew, hall⟩ := exists_threads_follow hclosed offset (2 * code.size + 2)
    [(pc, slots)] f (by simp)
  rw [enter, hnew] at h
  rcases List.mem_append.mp h with h | h
  · obtain ⟨hskip, hstart⟩ := hall t h
    refine .inr ⟨hskip, fun haccepts => hstart ?_⟩
    rwa [Thread.Accepts, hskip, Position.advance_zero] at haccepts
  · exact .inl h

private theorem mem_enter_of_mem (h : t ∈ f.threads) :
    t ∈ (f.enter code p offset pc slots).threads := by
  have hclosed : ∀ (q : Nat) (i : Instruction), True → code[q]? = some i →
      ∀ t ∈ i.targetsAt p q, True :=
    fun _ _ _ _ _ _ => trivial
  obtain ⟨new, hnew, -⟩ := exists_threads_follow (S := fun _ => True) hclosed offset
    (2 * code.size + 2) [(pc, slots)] f (by simp)
  rw [enter, hnew]
  exact List.mem_append_right new h

private theorem IsClosed.exists_isAlive_enter (hf : IsClosed code p f) (h : Accepts code pc p)
    (offset : Nat) (slots : Slots) :
    ∃ t ∈ (f.enter code p offset pc slots).threads, t.IsAlive code p := by
  have hwaiting : ∀ {stop : Nat} {i : Instruction}, Reaches code p pc stop → code[stop]? = some i →
      i.waits = true → Accepts code stop p →
      ∃ t ∈ (f.enter code p offset pc slots).threads, t.IsAlive code p := by
    intro stop i hreaches hcode hwaits hstop
    obtain ⟨t, ht, rfl, hskip⟩ := hf.exists_thread_enter offset slots hreaches hcode hwaits
    refine ⟨t, ht, ?_, by rw [hskip]; exact Nat.zero_le _, fun _ => ⟨i, hcode, hwaits⟩⟩
    rwa [Thread.Accepts, hskip, Position.advance_zero]
  cases h with
  | finish reaches accepts => exact hwaiting reaches accepts rfl (.finish .refl accepts)
  | read reaches found reads rest =>
    exact hwaiting reaches found (Instruction.waits_of_reads reads) (.read .refl found reads rest)

private theorem mem_threads_receive (h : t ∈ (f.receive code p offset pc skip slots).threads) :
    t ∈ f.threads ∨ (t.Accepts code p → Accepts code pc (p.advance skip)) := by
  unfold receive at h
  split at h
  · next hskip =>
    rw [hskip]
    exact (mem_threads_enter h).imp_right And.right
  · unfold wait at h
    split at h
    · exact .inl h
    · rcases List.mem_cons.mp h with rfl | h
      · exact .inr id
      · exact .inl h

private theorem mem_receive_of_mem (h : t ∈ f.threads) :
    t ∈ (f.receive code p offset pc skip slots).threads := by
  unfold receive
  split
  · exact mem_enter_of_mem h
  · unfold wait
    split
    · exact h
    · exact List.mem_cons_of_mem _ h

private theorem IsClosed.receive (hf : IsClosed code p f) (offset pc skip : Nat) (slots : Slots) :
    IsClosed code p (f.receive code p offset pc skip slots) := by
  unfold Frontier.receive
  split
  · exact (hf.enter offset pc slots).1
  · unfold wait
    split
    · exact hf
    · refine ⟨⟨hf.covers.targets, fun q i hq hi hwaits => ?_⟩, hf.size⟩
      obtain ⟨t, ht, hat⟩ := hf.covers.waits q i hq hi hwaits
      exact ⟨t, List.mem_cons_of_mem _ ht, hat⟩

private theorem IsClosed.exists_isAlive_receive (hf : IsClosed code p f)
    (h : Accepts code pc (p.advance skip)) (hskip : skip ≤ p.after.length) (offset : Nat)
    (slots : Slots) :
    ∃ t ∈ (f.receive code p offset pc skip slots).threads, t.IsAlive code p := by
  unfold Frontier.receive
  split
  · next hzero =>
    subst hzero
    exact hf.exists_isAlive_enter h offset slots
  · next hsome =>
    have halive : ∀ t : Thread, t.pc = pc → t.skip = skip → t.IsAlive code p := by
      rintro t rfl rfl
      exact ⟨h, hskip, fun hzero => absurd hzero hsome⟩
    unfold wait
    split
    · next hany =>
      obtain ⟨t, ht, hsame⟩ := List.any_eq_true.mp hany
      simp only [Bool.and_eq_true, beq_iff_eq] at hsame
      exact ⟨t, ht, halive t hsame.1.1 hsame.1.2⟩
    · exact ⟨_, List.mem_cons_self, halive _ rfl rfl⟩

end Frontier

/-! ### Steps -/

section

variable {t : Thread} {skip : Nat}

private theorem Thread.accepts_of_next (h : t.next? code p = some (pc, skip))
    (hrest : Regex.Accepts code pc ((p.advance 1).advance skip)) : t.Accepts code p := by
  rw [← Position.advance_add] at hrest
  unfold Thread.next? at h
  split at h
  · next hskip =>
    obtain ⟨n, hn, heq⟩ := Option.map_eq_some_iff.mp h
    obtain ⟨i, hi, hreads⟩ := Option.bind_eq_some_iff.mp hn
    obtain ⟨rfl, rfl⟩ := Prod.mk.inj heq
    have hpos := (Instruction.bounds_of_reads hreads).1
    rw [show 1 + (n - 1) = n by omega] at hrest
    rw [Thread.Accepts, hskip, Position.advance_zero]
    exact .read .refl hi hreads hrest
  · next k hskip =>
    obtain ⟨rfl, rfl⟩ := Prod.mk.inj (Option.some.inj h)
    rwa [Thread.Accepts, hskip, Nat.succ_eq_one_add]

private theorem Thread.IsAlive.accept_or_next (h : t.IsAlive code p) :
    t.skip = 0 ∧ code[t.pc]? = some .accept ∨
      ∃ pc skip, t.next? code p = some (pc, skip) ∧
        Regex.Accepts code pc ((p.advance 1).advance skip) ∧
        skip ≤ (p.advance 1).after.length := by
  have haccepts := h.accepts
  have hle := h.skip_le
  rw [Position.length_after_advance]
  unfold Thread.Accepts at haccepts
  cases hskip : t.skip with
  | succ skip =>
    rw [hskip, Nat.add_comm, Position.advance_add] at haccepts
    exact .inr ⟨t.pc, skip, by simp [Thread.next?, hskip], haccepts, by omega⟩
  | zero =>
    obtain ⟨i, hi, hwaits⟩ := h.waits hskip
    rw [hskip, Position.advance_zero] at haccepts
    cases haccepts with
    | finish reaches accepts =>
      rw [eq_of_reaches_of_waits hi hwaits reaches] at accepts
      exact .inl ⟨rfl, accepts⟩
    | @read _ stop n _ j reaches found reads rest =>
      rw [eq_of_reaches_of_waits hi hwaits reaches] at found rest
      obtain ⟨hpos, hlength⟩ := Instruction.bounds_of_reads reads
      refine .inr ⟨t.pc + 1, n - 1, by simp [Thread.next?, hskip, found, reads], ?_, by omega⟩
      rwa [← Position.advance_add, show 1 + (n - 1) = n by omega]

/-- What a step finds, and every way that is left after it, comes from a way before it. -/
private theorem exists_of_step (code : Array Instruction) (p : Position) (offset : Nat)
    (threads : List Thread) (f : Frontier) :
    ((step code p (p.advance 1) offset threads f).2.isSome = true →
      ∃ u ∈ threads, u.Accepts code p) ∧
    ∀ t ∈ (step code p (p.advance 1) offset threads f).1.threads,
      t ∈ f.threads ∨ (t.Accepts code (p.advance 1) → ∃ u ∈ threads, u.Accepts code p) := by
  induction threads generalizing f with
  | nil => exact ⟨by simp [step], fun t ht => .inl (by simpa [step] using ht)⟩
  | cons u rest ih =>
    have hlater (h : ∃ v ∈ rest, v.Accepts code p) : ∃ v ∈ u :: rest, v.Accepts code p := by
      obtain ⟨v, hv, haccepts⟩ := h
      exact ⟨v, List.mem_cons_of_mem u hv, haccepts⟩
    cases hnext : u.next? code p with
    | some found =>
      obtain ⟨pc, skip⟩ := found
      rw [step_cons_of_next hnext]
      obtain ⟨hfound, hleft⟩ := ih (f.receive code (p.advance 1) (offset + 1) pc skip u.slots)
      refine ⟨fun h => hlater (hfound h), fun t ht => ?_⟩
      rcases hleft t ht with ht | ht
      · refine (Frontier.mem_threads_receive ht).imp_right fun hrest haccepts => ?_
        exact ⟨u, List.mem_cons_self, Thread.accepts_of_next hnext (hrest haccepts)⟩
      · exact .inr fun haccepts => hlater (ht haccepts)
    | none =>
      have hskip := Thread.skip_of_next? hnext
      by_cases haccept : code[u.pc]? = some .accept
      · have haccepts : u.Accepts code p := by
          rw [Thread.Accepts, hskip, Position.advance_zero]
          exact .finish .refl haccept
        rw [step_cons_of_accept hskip haccept]
        exact ⟨fun _ => ⟨u, List.mem_cons_self, haccepts⟩, fun t ht => .inl ht⟩
      · rw [step_cons_of_next_none hnext haccept]
        obtain ⟨hfound, hleft⟩ := ih f
        exact ⟨fun h => hlater (hfound h), fun t ht =>
          (hleft t ht).imp_right fun hrest haccepts => hlater (hrest haccepts)⟩

private theorem isAlive_step {f : Frontier} (hf : f.IsClosed code (p.advance 1)) (offset : Nat)
    (threads : List Thread) :
    (step code p (p.advance 1) offset threads f).1.IsClosed code (p.advance 1) ∧
    (∀ t ∈ f.threads, t ∈ (step code p (p.advance 1) offset threads f).1.threads) ∧
    ((∃ u ∈ threads, u.IsAlive code p) →
      (step code p (p.advance 1) offset threads f).2.isSome = true ∨
        ∃ t ∈ (step code p (p.advance 1) offset threads f).1.threads,
          t.IsAlive code (p.advance 1)) := by
  induction threads generalizing f with
  | nil => exact ⟨by rwa [step], fun t ht => by rwa [step], by simp⟩
  | cons u rest ih =>
    cases hnext : u.next? code p with
    | some found =>
      obtain ⟨pc, skip⟩ := found
      rw [step_cons_of_next hnext]
      obtain ⟨hclosed, hkeeps, halive⟩ := ih (hf.receive (offset + 1) pc skip u.slots)
      refine ⟨hclosed, fun t ht => hkeeps t (Frontier.mem_receive_of_mem ht), ?_⟩
      rintro ⟨v, hv, hvalive⟩
      rcases List.mem_cons.mp hv with rfl | hv
      · rcases hvalive.accept_or_next with ⟨hskip, haccept⟩ | ⟨pc', skip', hnext', hrest, hle⟩
        · simp [Thread.next?, hskip, haccept, Instruction.reads] at hnext
        · obtain ⟨rfl, rfl⟩ := Prod.mk.inj (Option.some.inj (hnext.symm.trans hnext'))
          obtain ⟨t, ht, htalive⟩ := hf.exists_isAlive_receive hrest hle (offset + 1) v.slots
          exact .inr ⟨t, hkeeps t ht, htalive⟩
      · exact halive ⟨v, hv, hvalive⟩
    | none =>
      by_cases haccept : u.skip = 0 ∧ code[u.pc]? = some .accept
      · rw [step_cons_of_accept haccept.1 haccept.2]
        exact ⟨hf, fun t ht => ht, fun _ => .inl rfl⟩
      · rw [step_cons_of_next_none hnext fun h => haccept ⟨Thread.skip_of_next? hnext, h⟩]
        obtain ⟨hclosed, hkeeps, halive⟩ := ih hf
        refine ⟨hclosed, hkeeps, ?_⟩
        rintro ⟨v, hv, hvalive⟩
        rcases List.mem_cons.mp hv with rfl | hv
        · rcases hvalive.accept_or_next with hdone | ⟨pc', skip', hnext', -⟩
          · exact absurd hdone haccept
          · simp [hnext] at hnext'
        · exact halive ⟨v, hv, hvalive⟩

end

/-! ### Runs -/

/-- Whether a search may begin at a position: unless it may begin inside characters, only where the
next byte does not continue one. -/
def Position.IsStart (startsInside : Bool) (p : Position) : Prop :=
  startsInside = true ∨ ∀ b rest, p.after = b :: rest → Utf8.isContinuation b = false

variable {startsInside : Bool}

private theorem isSome_run_of_best {best : Option Slots} (h : best.isSome = true) (before : Bytes)
    (offset : Nat) (f : Frontier) (rest : Bytes) :
    (run code startsInside best before offset f rest).isSome = true := by
  induction rest generalizing best before offset f with
  | nil =>
    rw [run, Option.orElse_eq_orElse, Option.orElse_eq_or, Option.isSome_or, h, Bool.or_true]
  | cons b rest ih =>
    obtain ⟨slots, rfl⟩ := Option.isSome_iff_exists.mp h
    simp only [run, Option.isNone_some, Bool.false_and, Bool.false_eq_true, if_false]
    split
    · rfl
    · refine ih ?_ _ _ _
      rw [Option.orElse_eq_orElse, Option.orElse_eq_or, Option.isSome_or, Option.isSome_some,
        Bool.or_true]

def Frontier.begin (f : Frontier) (code : Array Instruction) (startsInside : Bool) (p : Position)
    (offset : Nat) : Frontier :=
  if startsInside || !(p.after.head?.any Utf8.isContinuation) then f.enter code p offset 0 []
  else f

private theorem Position.isStart_iff : p.IsStart startsInside ↔
    (startsInside || !(p.after.head?.any Utf8.isContinuation)) = true := by
  cases hafter : p.after <;> simp [IsStart, hafter]

private theorem run_nil (before : Bytes) (offset : Nat) (f : Frontier) :
    run code startsInside none before offset f [] =
      finished code (f.begin code startsInside ⟨before, []⟩ offset).threads.reverse := by
  simp [run, Frontier.begin]

private theorem run_cons (before : Bytes) (offset : Nat) (f : Frontier) (b : UInt8) (rest : Bytes) :
    run code startsInside none before offset f (b :: rest) =
      let p : Position := ⟨before, b :: rest⟩
      let stepped := step code p (p.advance 1) offset
        (f.begin code startsInside p offset).threads.reverse (.none code)
      run code startsInside stepped.2 (b :: before) (offset + 1) stepped.1 rest := by
  simp [run, Frontier.begin, Position.advance]

private theorem mem_threads_begin {f : Frontier} {offset : Nat} {t : Thread}
    (h : t ∈ (f.begin code startsInside p offset).threads) :
    t ∈ f.threads ∨ p.IsStart startsInside ∧ (t.Accepts code p → Accepts code 0 p) := by
  unfold Frontier.begin at h
  split at h
  · next hstart =>
    exact (Frontier.mem_threads_enter h).imp_right fun hnew =>
      ⟨Position.isStart_iff.mpr hstart, hnew.2⟩
  · exact .inl h

private theorem exists_isAlive_begin {f : Frontier} (hf : f.IsClosed code p) (offset : Nat)
    (h : (∃ t ∈ f.threads, t.IsAlive code p) ∨ p.IsStart startsInside ∧ Accepts code 0 p) :
    ∃ t ∈ (f.begin code startsInside p offset).threads, t.IsAlive code p := by
  unfold Frontier.begin
  split
  · rcases h with ⟨t, ht, halive⟩ | ⟨-, haccepts⟩
    · exact ⟨t, Frontier.mem_enter_of_mem ht, halive⟩
    · exact hf.exists_isAlive_enter haccepts offset []
  · next hinside =>
    rcases h with halive | ⟨hstart, -⟩
    · exact halive
    · exact absurd (Position.isStart_iff.mp hstart) hinside

private theorem exists_of_run {before : Bytes} {offset : Nat} {f : Frontier} {rest : Bytes}
    (h : (run code startsInside none before offset f rest).isSome = true) :
    (∃ t ∈ f.threads, t.Accepts code ⟨before, rest⟩) ∨
      ∃ n ≤ rest.length, (Position.advance ⟨before, rest⟩ n).IsStart startsInside ∧
        Accepts code 0 (Position.advance ⟨before, rest⟩ n) := by
  have hnow {rest : Bytes} {before : Bytes} {offset : Nat} {f : Frontier}
      (h : ∃ t ∈ (f.begin code startsInside ⟨before, rest⟩ offset).threads,
        t.Accepts code ⟨before, rest⟩) :
      (∃ t ∈ f.threads, t.Accepts code ⟨before, rest⟩) ∨
        ∃ n ≤ rest.length, (Position.advance ⟨before, rest⟩ n).IsStart startsInside ∧
          Accepts code 0 (Position.advance ⟨before, rest⟩ n) := by
    obtain ⟨t, ht, haccepts⟩ := h
    rcases mem_threads_begin ht with ht | ⟨hstart, hnew⟩
    · exact .inl ⟨t, ht, haccepts⟩
    · exact .inr ⟨0, Nat.zero_le _, hstart, hnew haccepts⟩
  induction rest generalizing before offset f with
  | nil =>
    rw [run_nil, finished, Option.isSome_map, List.find?_isSome] at h
    obtain ⟨t, ht, hdone⟩ := h
    simp only [Bool.and_eq_true, beq_iff_eq] at hdone
    refine hnow ⟨t, List.mem_reverse.mp ht, ?_⟩
    rw [Thread.Accepts, hdone.1]
    exact .finish .refl hdone.2
  | cons b rest ih =>
    rw [run_cons] at h
    dsimp only at h
    obtain ⟨hfound, hleft⟩ := exists_of_step code ⟨before, b :: rest⟩ offset
      (f.begin code startsInside ⟨before, b :: rest⟩ offset).threads.reverse (.none code)
    simp only [List.mem_reverse] at hfound hleft
    cases hstep : (step code ⟨before, b :: rest⟩ (Position.advance ⟨before, b :: rest⟩ 1) offset
        (f.begin code startsInside ⟨before, b :: rest⟩ offset).threads.reverse (.none code)).2 with
    | some slots => exact hnow (hfound (by rw [hstep]; rfl))
    | none =>
      rw [hstep] at h
      rcases ih h with ⟨t, ht, haccepts⟩ | ⟨n, hn, hstart, haccepts⟩
      · rcases hleft t ht with hnone | hbefore
        · simp [Frontier.none] at hnone
        · exact hnow (hbefore haccepts)
      · have hadvance : Position.advance ⟨before, b :: rest⟩ (n + 1) =
            Position.advance ⟨b :: before, rest⟩ n := by
          rw [Nat.add_comm, Position.advance_add]
          rfl
        exact .inr ⟨n + 1, Nat.succ_le_succ hn, hadvance ▸ hstart, hadvance ▸ haccepts⟩

private theorem isSome_run {before : Bytes} {offset : Nat} {f : Frontier} {rest : Bytes}
    (hf : f.IsClosed code ⟨before, rest⟩)
    (h : (∃ t ∈ f.threads, t.IsAlive code ⟨before, rest⟩) ∨
      ∃ n ≤ rest.length, (Position.advance ⟨before, rest⟩ n).IsStart startsInside ∧
        Accepts code 0 (Position.advance ⟨before, rest⟩ n)) :
    (run code startsInside none before offset f rest).isSome = true := by
  induction rest generalizing before offset f with
  | nil =>
    have hnow : (∃ t ∈ f.threads, t.IsAlive code ⟨before, []⟩) ∨
        Position.IsStart startsInside ⟨before, []⟩ ∧ Accepts code 0 ⟨before, []⟩ := by
      refine h.imp_right ?_
      rintro ⟨n, hn, hstart, haccepts⟩
      obtain rfl := Nat.le_zero.mp hn
      exact ⟨hstart, haccepts⟩
    obtain ⟨t, ht, halive⟩ := exists_isAlive_begin hf offset hnow
    have hskip : t.skip = 0 := Nat.le_zero.mp halive.skip_le
    have haccept : code[t.pc]? = some .accept := by
      rcases halive.accept_or_next with ⟨-, haccept⟩ | ⟨pc, skip, hnext, -⟩
      · exact haccept
      · -- No byte is left to read.
        simp only [Thread.next?, hskip, Option.map_eq_some_iff] at hnext
        obtain ⟨n, hn, -⟩ := hnext
        obtain ⟨i, -, hreads⟩ := Option.bind_eq_some_iff.mp hn
        obtain ⟨hpos, hlength⟩ := Instruction.bounds_of_reads hreads
        exact absurd (Nat.le_zero.mp hlength) (Nat.ne_of_gt hpos)
    rw [run_nil, finished, Option.isSome_map, List.find?_isSome]
    exact ⟨t, List.mem_reverse.mpr ht, by simp [hskip, haccept]⟩
  | cons b rest ih =>
    rw [run_cons]
    dsimp only
    obtain ⟨hclosed, -, hstep⟩ := isAlive_step (p := ⟨before, b :: rest⟩)
      (Frontier.isClosed_none code _) offset
      (f.begin code startsInside ⟨before, b :: rest⟩ offset).threads.reverse
    simp only [List.mem_reverse] at hstep
    cases hfound : (step code ⟨before, b :: rest⟩ (Position.advance ⟨before, b :: rest⟩ 1) offset
        (f.begin code startsInside ⟨before, b :: rest⟩ offset).threads.reverse (.none code)).2 with
    | some slots => exact isSome_run_of_best rfl _ _ _ _
    | none =>
      refine ih hclosed ?_
      have hnow (h : (∃ t ∈ f.threads, t.IsAlive code ⟨before, b :: rest⟩) ∨
          Position.IsStart startsInside ⟨before, b :: rest⟩ ∧
            Accepts code 0 ⟨before, b :: rest⟩) :=
        (hstep (exists_isAlive_begin hf offset h)).resolve_left (by simp [hfound])
      rcases h with halive | ⟨n, hn, hstart, haccepts⟩
      · exact .inl (hnow (.inl halive))
      · cases n with
        | zero => exact .inl (hnow (.inr ⟨hstart, haccepts⟩))
        | succ n =>
          rw [Nat.add_comm, Position.advance_add] at hstart haccepts
          exact .inr ⟨n, Nat.le_of_succ_le_succ hn, hstart, haccepts⟩

end

/-! ### Searches -/

/-- A search finds something exactly if the program can be brought to an end from an offset at which
a match may begin. -/
theorem isSome_search_iff (program : Program) (startsInside : Bool) (text : Bytes) :
    (search program startsInside text).isSome = true ↔
      ∃ n ≤ text.length, (Position.advance ⟨[], text⟩ n).IsStart startsInside ∧
        Accepts program.code 0 (Position.advance ⟨[], text⟩ n) := by
  constructor
  · intro h
    rcases exists_of_run h with ⟨t, ht, -⟩ | hmatch
    · simp [Frontier.none] at ht
    · exact hmatch
  · exact fun h => isSome_run (Frontier.isClosed_none program.code _) (.inr h)

end PxeLaunch.Regex

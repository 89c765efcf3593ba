import Mathlib.Logic.Relation
import PxeLaunch.Regex.Search

/-!
What a search enters without reading. The instructions that are entered at a position are those that
can be reached from where the search starts; the fuel is enough for all of them, since every step
either enters an instruction that has not been entered or takes a choice that was put off.
-/

set_option autoImplicit false

namespace PxeLaunch.Regex

namespace Instruction

/-- Where an instruction leads without reading. -/
def targets (pc : Nat) : Instruction → List Nat
  | .look _ | .save _ => [pc + 1]
  | .split first second => [first, second]
  | .jump target => [target]
  | .byte _ | .char _ | .accept => []

/-- Where an instruction leads at a position, where its condition may not hold. -/
def targetsAt (p : Position) (pc : Nat) : Instruction → List Nat
  | .look l => if p.satisfies l then [pc + 1] else []
  | i => i.targets pc

def waits : Instruction → Bool
  | .byte _ | .char _ | .accept => true
  | _ => false

end Instruction

namespace Frontier

variable {code : Array Instruction} {p : Position} {offset fuel pc : Nat} {slots : Slots}
  {rest : List (Nat × Slots)} {entered : Array Bool} {threads : List Thread}

/-! ### One step -/

private theorem follow_of_entered (h : entered.getD pc true = true) :
    follow code p offset (fuel + 1) ((pc, slots) :: rest) ⟨entered, threads⟩ =
      follow code p offset fuel rest ⟨entered, threads⟩ := by
  rw [follow, if_pos h]

private theorem follow_of_none (h : entered.getD pc true = false)
    (hcode : code[pc]? = Option.none) :
    follow code p offset (fuel + 1) ((pc, slots) :: rest) ⟨entered, threads⟩ =
      follow code p offset fuel rest ⟨entered.setIfInBounds pc true, threads⟩ := by
  rw [follow, if_neg (by simp [h])]
  simp only [hcode]

private theorem follow_of_some {i : Instruction} (h : entered.getD pc true = false)
    (hcode : code[pc]? = some i) (p : Position) (offset fuel : Nat) (slots : Slots)
    (rest : List (Nat × Slots)) (threads : List Thread) :
    ∃ slots', follow code p offset (fuel + 1) ((pc, slots) :: rest) ⟨entered, threads⟩ =
      follow code p offset fuel ((i.targetsAt p pc).map (·, slots') ++ rest)
        ⟨entered.setIfInBounds pc true,
          if i.waits then ⟨pc, 0, slots⟩ :: threads else threads⟩ := by
  rw [follow, if_neg (by simp [h])]
  simp only [hcode]
  cases i with
  | save slot => exact ⟨(slot, offset) :: slots, rfl⟩
  | look l =>
    refine ⟨slots, ?_⟩
    cases hl : p.satisfies l <;> simp [Instruction.targetsAt, Instruction.waits, hl]
  | _ => exact ⟨slots, rfl⟩

/-! ### Nothing else is entered -/

/-- The ways that are found wait in every set that holds the places to start from and all that is
reached from it. -/
theorem exists_threads_follow {S : Nat → Prop}
    (hstep : ∀ pc i, S pc → code[pc]? = some i → ∀ t ∈ i.targetsAt p pc, S t)
    (offset fuel : Nat) (todo : List (Nat × Slots)) (f : Frontier) (htodo : ∀ x ∈ todo, S x.1) :
    ∃ new, (follow code p offset fuel todo f).threads = new ++ f.threads ∧
      ∀ t ∈ new, t.skip = 0 ∧ S t.pc := by
  induction fuel generalizing todo f with
  | zero => exact ⟨[], by simp [follow], by simp⟩
  | succ fuel ih =>
    cases todo with
    | nil => exact ⟨[], by simp [follow], by simp⟩
    | cons x rest =>
      obtain ⟨pc, slots⟩ := x
      obtain ⟨entered, threads⟩ := f
      have hpc : S pc := htodo (pc, slots) List.mem_cons_self
      have hrest : ∀ x ∈ rest, S x.1 := fun x hx => htodo x (List.mem_cons_of_mem _ hx)
      cases hentered : entered.getD pc true with
      | true =>
        rw [follow_of_entered hentered]
        exact ih rest ⟨entered, threads⟩ hrest
      | false =>
        cases hcode : code[pc]? with
        | none =>
          rw [follow_of_none hentered hcode]
          exact ih rest _ hrest
        | some i =>
          obtain ⟨slots', hfollow⟩ :=
            follow_of_some hentered hcode p offset fuel slots rest threads
          rw [hfollow]
          obtain ⟨new, hnew, hall⟩ := ih ((i.targetsAt p pc).map (·, slots') ++ rest)
            ⟨entered.setIfInBounds pc true,
              if i.waits then ⟨pc, 0, slots⟩ :: threads else threads⟩ (by
            intro x hx
            rcases List.mem_append.mp hx with hx | hx
            · obtain ⟨t, ht, rfl⟩ := List.mem_map.mp hx
              exact hstep pc i hpc hcode t ht
            · exact hrest x hx)
          rw [hnew]
          cases i.waits with
          | false => exact ⟨new, rfl, hall⟩
          | true =>
            refine ⟨new ++ [⟨pc, 0, slots⟩], by simp, fun t ht => ?_⟩
            rcases List.mem_append.mp ht with ht | ht
            · exact hall t ht
            · rw [List.mem_singleton.mp ht]
              exact ⟨rfl, hpc⟩

/-! ### Everything is entered -/

def remaining (entered : Array Bool) : Nat := entered.toList.countP (! ·)

private theorem remaining_setIfInBounds (h : entered.getD pc true = false) :
    remaining (entered.setIfInBounds pc true) + 1 = remaining entered := by
  obtain ⟨hlt, hfalse⟩ : ∃ hlt : pc < entered.toList.length, entered.toList[pc] = false := by
    by_cases hlt : pc < entered.size
    · exact ⟨by simpa using hlt, by simpa [Array.getD, hlt] using h⟩
    · simp [Array.getD, hlt] at h
  have hpos : 0 < entered.toList.countP (! ·) :=
    List.countP_pos_iff.mpr ⟨_, List.getElem_mem hlt, by rw [hfalse]; rfl⟩
  rw [remaining, remaining, Array.toList_setIfInBounds, List.countP_set hlt, hfalse]
  simp only [Bool.not_false, Bool.not_true, if_true, Bool.false_eq_true, if_false, Nat.add_zero]
  exact Nat.sub_add_cancel hpos

private theorem getD_setIfInBounds (pc q : Nat) (entered : Array Bool) :
    (entered.setIfInBounds pc true).getD q true = (entered.getD q true || decide (q = pc)) := by
  by_cases hq : q = pc
  · subst hq
    by_cases hlt : q < entered.size <;> simp [Array.getD, hlt]
  · by_cases hlt : q < entered.size <;> simp [Array.getD, hlt, hq, Ne.symm hq]

/-- Where an entered instruction leads has been entered or is put off, and a way waits at every
entered instruction that ways wait at. -/
structure Covers (code : Array Instruction) (p : Position) (todo : List (Nat × Slots))
    (f : Frontier) : Prop where
  targets : ∀ pc i, f.entered.getD pc true = true → code[pc]? = some i →
    ∀ t ∈ i.targetsAt p pc, f.entered.getD t true = true ∨ t ∈ todo.map Prod.fst
  waits : ∀ pc i, f.entered.getD pc true = true → code[pc]? = some i → i.waits = true →
    ∃ t ∈ f.threads, t.pc = pc ∧ t.skip = 0

private theorem covers_none (code : Array Instruction) (p : Position) (todo : List (Nat × Slots)) :
    Covers code p todo (.none code) := by
  have hnone : ∀ pc i, code[pc]? = some i → (Frontier.none code).entered.getD pc true = false := by
    intro pc i hcode
    have hlt : pc < code.size := (Array.getElem?_eq_some_iff.mp hcode).1
    simp [Frontier.none, Array.getD, hlt]
  constructor <;>
  · intro pc i hentered hcode
    rw [hnone pc i hcode] at hentered
    simp at hentered

private theorem Covers.of_entered {x : Nat × Slots} {f : Frontier} (h : Covers code p (x :: rest) f)
    (hx : f.entered.getD x.1 true = true) : Covers code p rest f where
  targets pc i hpc hcode t ht := by
    rcases h.targets pc i hpc hcode t ht with hentered | htodo
    · exact .inl hentered
    · rcases List.mem_cons.mp htodo with rfl | hrest
      · exact .inl hx
      · exact .inr hrest
  waits := h.waits

private theorem Covers.step {new : List (Nat × Slots)} {threads' : List Thread}
    (h : Covers code p ((pc, slots) :: rest) ⟨entered, threads⟩)
    (hnew : ∀ i, code[pc]? = some i → ∀ t ∈ i.targetsAt p pc, t ∈ new.map Prod.fst)
    (hthreads : ∀ t ∈ threads, t ∈ threads')
    (hwaits : ∀ i, code[pc]? = some i → i.waits = true → ∃ t ∈ threads', t.pc = pc ∧ t.skip = 0) :
    Covers code p (new ++ rest) ⟨entered.setIfInBounds pc true, threads'⟩ where
  targets q i hq hi t ht := by
    rw [getD_setIfInBounds, Bool.or_eq_true, decide_eq_true_eq] at hq ⊢
    rw [List.map_append, List.mem_append]
    rcases hq with hq | rfl
    · rcases h.targets q i hq hi t ht with hentered | htodo
      · exact .inl (.inl hentered)
      · rcases List.mem_cons.mp htodo with rfl | hrest
        · exact .inl (.inr rfl)
        · exact .inr (.inr hrest)
    · exact .inr (.inl (hnew i hi t ht))
  waits q i hq hi hwaiting := by
    rw [getD_setIfInBounds, Bool.or_eq_true, decide_eq_true_eq] at hq
    rcases hq with hq | rfl
    · obtain ⟨t, ht, hat⟩ := h.waits q i hq hi hwaiting
      exact ⟨t, hthreads t ht, hat⟩
    · exact hwaits i hi hwaiting

private theorem length_targetsAt_le (i : Instruction) (p : Position) (pc : Nat) :
    (i.targetsAt p pc).length ≤ 2 := by
  cases i with
  | look l => cases hl : p.satisfies l <;> simp [Instruction.targetsAt, hl]
  | _ => simp [Instruction.targetsAt, Instruction.targets]

private theorem Covers.exists_step (h : Covers code p ((pc, slots) :: rest) ⟨entered, threads⟩)
    (hentered : entered.getD pc true = false) (offset fuel : Nat) :
    ∃ new threads', Covers code p (new ++ rest) ⟨entered.setIfInBounds pc true, threads'⟩ ∧
      new.length ≤ 2 ∧
      follow code p offset (fuel + 1) ((pc, slots) :: rest) ⟨entered, threads⟩ =
        follow code p offset fuel (new ++ rest) ⟨entered.setIfInBounds pc true, threads'⟩ := by
  cases hcode : code[pc]? with
  | none =>
    exact ⟨[], threads, h.step (by simp [hcode]) (fun t ht => ht) (by simp [hcode]), by simp,
      follow_of_none hentered hcode⟩
  | some i =>
    obtain ⟨slots', hfollow⟩ := follow_of_some hentered hcode p offset fuel slots rest threads
    have hself : ∀ j, code[pc]? = some j → j = i := by simp [hcode]
    refine ⟨_, _, h.step (fun j hj t ht => ?_) (fun t ht => ?_) (fun j hj hwaits => ?_), ?_,
      hfollow⟩
    · rw [hself j hj] at ht
      exact List.mem_map.mpr ⟨_, List.mem_map.mpr ⟨t, ht, rfl⟩, rfl⟩
    · split
      · exact List.mem_cons_of_mem _ ht
      · exact ht
    · rw [hself j hj] at hwaits
      exact ⟨⟨pc, 0, slots⟩, by rw [if_pos hwaits]; exact List.mem_cons_self, rfl, rfl⟩
    · rw [List.length_map]
      exact length_targetsAt_le i p pc

/-- With fuel for two visits to every instruction, everything that is put off is entered. -/
private theorem Covers.follow {todo : List (Nat × Slots)} {f : Frontier} (h : Covers code p todo f)
    (offset : Nat) (hfuel : 2 * remaining f.entered + todo.length ≤ fuel) :
    Covers code p [] (follow code p offset fuel todo f) ∧
      ∀ pc, f.entered.getD pc true = true ∨ pc ∈ todo.map Prod.fst →
        (Frontier.follow code p offset fuel todo f).entered.getD pc true = true := by
  induction fuel generalizing todo f with
  | zero =>
    have hnil : todo = [] := List.eq_nil_of_length_eq_zero (by omega)
    subst hnil
    rw [Frontier.follow]
    exact ⟨h, fun pc hpc => by simpa using hpc⟩
  | succ fuel ih =>
    cases todo with
    | nil =>
      have hnil : Frontier.follow code p offset (fuel + 1) [] f = f := by simp [Frontier.follow]
      rw [hnil]
      exact ⟨h, fun pc hpc => by simpa using hpc⟩
    | cons x rest =>
      obtain ⟨pc, slots⟩ := x
      obtain ⟨entered, threads⟩ := f
      dsimp only [List.length_cons] at hfuel
      cases hentered : entered.getD pc true with
      | true =>
        rw [follow_of_entered hentered]
        obtain ⟨hcovers, hall⟩ := ih (h.of_entered hentered) (by dsimp only; omega)
        refine ⟨hcovers, fun q hq => hall q ?_⟩
        rcases hq with hq | hq
        · exact .inl hq
        · rcases List.mem_cons.mp hq with rfl | hq
          · exact .inl hentered
          · exact .inr hq
      | false =>
        have hremaining := remaining_setIfInBounds hentered
        obtain ⟨new, threads', hcovers, hlength, hfollow⟩ := h.exists_step hentered offset fuel
        rw [hfollow]
        obtain ⟨hcovers', hall⟩ := ih hcovers (by rw [List.length_append]; dsimp only; omega)
        refine ⟨hcovers', fun q hq => hall q ?_⟩
        rw [getD_setIfInBounds, Bool.or_eq_true, decide_eq_true_eq, List.map_append,
          List.mem_append]
        rcases hq with hq | hq
        · exact .inl (.inl hq)
        · rcases List.mem_cons.mp hq with rfl | hq
          · exact .inl (.inr rfl)
          · exact .inr (.inr hq)

def Reaches (code : Array Instruction) (p : Position) : Nat → Nat → Prop :=
  Relation.ReflTransGen fun a b => ∃ i, code[a]? = some i ∧ b ∈ i.targetsAt p a

private theorem Covers.entered_of_reaches {f : Frontier} (h : Covers code p [] f) {start : Nat}
    (hstart : f.entered.getD start true = true) (hreaches : Reaches code p start pc) :
    f.entered.getD pc true = true := by
  induction hreaches with
  | refl => exact hstart
  | tail _ hstep ih =>
    obtain ⟨i, hi, hmem⟩ := hstep
    simpa using h.targets _ i ih hi _ hmem

/-- Whether everything that is reached at a position from what has been entered has been entered. -/
structure IsClosed (code : Array Instruction) (p : Position) (f : Frontier) : Prop where
  covers : Covers code p [] f
  size : f.entered.size = code.size

theorem isClosed_none (code : Array Instruction) (p : Position) : IsClosed code p (.none code) :=
  ⟨covers_none code p [], Array.size_replicate⟩

private theorem size_entered_follow (offset fuel : Nat) (todo : List (Nat × Slots)) (f : Frontier) :
    (follow code p offset fuel todo f).entered.size = f.entered.size := by
  induction fuel generalizing todo f with
  | zero => rw [follow]
  | succ fuel ih =>
    cases todo with
    | nil => simp [follow]
    | cons x rest =>
      obtain ⟨pc, slots⟩ := x
      obtain ⟨entered, threads⟩ := f
      cases hentered : entered.getD pc true with
      | true => rw [follow_of_entered hentered, ih]
      | false =>
        cases hcode : code[pc]? with
        | none => rw [follow_of_none hentered hcode, ih, Array.size_setIfInBounds]
        | some i =>
          obtain ⟨slots', hfollow⟩ :=
            follow_of_some hentered hcode p offset fuel slots rest threads
          rw [hfollow, ih, Array.size_setIfInBounds]

theorem IsClosed.enter {f : Frontier} (h : IsClosed code p f) (offset start : Nat)
    (slots : Slots) : IsClosed code p (f.enter code p offset start slots) ∧
      (f.enter code p offset start slots).entered.getD start true = true := by
  have hremaining : remaining f.entered ≤ code.size :=
    h.size ▸ Nat.le_trans List.countP_le_length (by simp)
  have htodo : Covers code p [(start, slots)] f :=
    ⟨fun pc i hpc hcode t ht => (h.covers.targets pc i hpc hcode t ht).imp_right (by simp),
      h.covers.waits⟩
  have hfuel : 2 * remaining f.entered + [(start, slots)].length ≤ 2 * code.size + 2 := by
    rw [List.length_singleton]
    omega
  obtain ⟨hcovers, hall⟩ := htodo.follow offset hfuel
  exact ⟨⟨hcovers, (size_entered_follow _ _ _ _).trans h.size⟩, hall start (.inr (by simp))⟩

theorem IsClosed.exists_thread_enter {f : Frontier} (h : IsClosed code p f) (offset : Nat)
    (slots : Slots) {start : Nat} {i : Instruction} (hreaches : Reaches code p start pc)
    (hcode : code[pc]? = some i) (hwaits : i.waits = true) :
    ∃ t ∈ (f.enter code p offset start slots).threads, t.pc = pc ∧ t.skip = 0 := by
  obtain ⟨hclosed, hstart⟩ := h.enter offset start slots
  exact hclosed.covers.waits pc i (hclosed.covers.entered_of_reaches hstart hreaches) hcode hwaits

end Frontier

end PxeLaunch.Regex

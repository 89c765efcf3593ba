import PxeLaunch.Proofs.Noise.Boundary
import PxeLaunch.Proofs.Noise.Failing

/-!
Reading turn by turn. In a turn the reader takes from a window as much as there is room for in the
line, but nothing after a newline, and then it gives the line out or goes on. Main statements: a
chunk is read in such turns; there is room in every turn, so that something is taken from every
window; hence a reading finds no more windows than a line may have bytes, and a stream gives no more
chunks than it has bytes.
-/

set_option autoImplicit false

namespace PxeLaunch.Noise

/-- Where a reading stands: what is pending, how long the stream has been silent, and what is to
come. -/
structure Turn where
  line : Bytes
  quiet : Nat
  events : List Event
  deriving Repr, DecidableEq

/-- How many of the bytes that are offered are taken, and whether a line is complete with them. -/
def intake (offered : Bytes) : Nat × Bool :=
  match offered.findIdx? (· == Bytes.newline) with
  | some i => (i + 1, true)
  | none => (offered.length, false)

namespace Turn

def start (events : List Event) : Turn := ⟨[], 0, events⟩

def room (t : Turn) : Nat := maxLine - t.line.length

/-- What a turn comes to: the end of the reading, or another turn. -/
def next (patience : Option Nat) (t : Turn) : Reading ⊕ Turn :=
  match t.events with
  | [] => .inl (if t.line.isEmpty then .ended else .chunk t.line [])
  | .data window :: rest =>
    if window.isEmpty then .inr ⟨t.line, t.quiet, rest⟩
    else
      let offered := window.take t.room
      let line := t.line ++ offered.take (intake offered).1
      let left := remaining (window.drop (intake offered).1) rest
      if (intake offered).2 || maxLine ≤ line.length then .inl (.chunk line left)
      else .inr ⟨line, 0, left⟩
  | .idle ms :: rest =>
    if !t.line.isEmpty && isLongSilence patience (t.quiet + ms) then .inl (.chunk t.line rest)
    else .inr ⟨t.line, t.quiet + ms, rest⟩
  | .failed cause :: rest => .inl (.failed cause rest)

/-- Whether a turn finds a window with something in it, or the end of the stream. -/
def hears (t : Turn) : Bool :=
  match t.events with
  | [] => true
  | .data window :: _ => !window.isEmpty
  | _ => false

end Turn

/-- The turns of a reading, from one of them to the last. -/
inductive Turns (patience : Option Nat) : Turn → List Turn → Reading → Prop
  | last {t : Turn} {r : Reading} : t.next patience = .inl r → Turns patience t [t] r
  | more {t u : Turn} {ts : List Turn} {r : Reading} :
      t.next patience = .inr u → Turns patience u ts r → Turns patience t (t :: ts) r

/-! ### Taking from a window -/

section

variable {offered head left after window line : Bytes}

private theorem intake_of_not_mem (h : Bytes.newline ∉ offered) :
    intake offered = (offered.length, false) := by
  have hnone : offered.findIdx? (· == Bytes.newline) = none := by
    rw [List.findIdx?_eq_none_iff]
    intro b hb
    have hne : b ≠ Bytes.newline := fun heq => h (heq ▸ hb)
    simpa using hne
  rw [intake, hnone]

private theorem intake_append_newline (h : Bytes.newline ∉ head) (after : Bytes) :
    intake (head ++ Bytes.newline :: after) = (head.length + 1, true) := by
  have hsome : (head ++ Bytes.newline :: after).findIdx? (· == Bytes.newline) =
      some head.length := by
    induction head with
    | nil => rw [List.nil_append, List.findIdx?_cons, beq_self_eq_true]; rfl
    | cons b head ih =>
      obtain ⟨hb, hhead⟩ := not_or.mp (mt List.mem_cons.mpr h)
      have hne : (b == Bytes.newline) = false := by simpa using Ne.symm hb
      rw [List.cons_append, List.findIdx?_cons, hne, ih hhead]
      rfl
  rw [intake, hsome]

private theorem intake_bounds (h : offered ≠ []) :
    0 < (intake offered).1 ∧ (intake offered).1 ≤ offered.length := by
  unfold intake
  cases hfind : offered.findIdx? (· == Bytes.newline) with
  | none =>
    have hpos : 0 < offered.length := List.length_pos_iff.mpr h
    exact ⟨hpos, Nat.le_refl _⟩
  | some i =>
    have hlt : i < offered.length := (List.findIdx?_eq_some_iff_findIdx_eq.mp hfind).1
    exact ⟨Nat.succ_pos i, hlt⟩

private theorem window_cases (line window : Bytes) :
    (Bytes.newline ∉ window ∧ line.length + window.length < maxLine) ∨
      (∃ head after, window = head ++ Bytes.newline :: after ∧ Bytes.newline ∉ head ∧
        line.length + head.length < maxLine) ∨
      ∃ head left, window = head ++ left ∧ Bytes.newline ∉ head ∧
        head.length = maxLine - line.length := by
  obtain ⟨left, happend, hclean, hleft⟩ := takeWhile_newline window
  generalize window.takeWhile (· != Bytes.newline) = head at happend hclean
  subst happend
  by_cases hfits : line.length + head.length < maxLine
  · rcases hleft with rfl | ⟨after, rfl⟩
    · rw [List.append_nil]
      exact .inl ⟨hclean, hfits⟩
    · exact .inr (.inl ⟨head, after, rfl, hclean, hfits⟩)
  · have hfull : maxLine - line.length ≤ head.length := by omega
    refine .inr (.inr ⟨head.take (maxLine - line.length),
      head.drop (maxLine - line.length) ++ left, ?_, ?_, ?_⟩)
    · rw [← List.append_assoc, List.take_append_drop]
    · exact fun hmem => hclean (List.mem_of_mem_take hmem)
    · rw [List.length_take, Nat.min_eq_left hfull]

private theorem takeWhile_append_of_not_mem (h : Bytes.newline ∉ head) (left : Bytes) :
    (head ++ left).takeWhile (· != Bytes.newline) =
      head ++ left.takeWhile (· != Bytes.newline) := by
  refine List.takeWhile_append_of_pos ?_
  intro b hb
  have hne : b ≠ Bytes.newline := fun heq => h (heq ▸ hb)
  simpa using hne

end

/-! ### Turns and readings -/

section

variable {patience : Option Nat} {t u : Turn} {ts : List Turn} {r : Reading}
  {window head left after line : Bytes} {quiet : Nat} {rest : List Event}

private theorem readFrom_open (hwindow : window ≠ []) (hclean : Bytes.newline ∉ window)
    (hfits : line.length + window.length < maxLine) :
    readFrom patience line quiet (.data window :: rest) =
      readFrom patience (line ++ window) 0 rest := by
  have hempty : window.isEmpty = false := by simpa using hwindow
  have hhead : window.takeWhile (· != Bytes.newline) = window := by
    simpa using takeWhile_append_of_not_mem hclean []
  have hroom : window.length < maxLine - line.length := by omega
  simp only [readFrom, hempty, Bool.false_eq_true, if_false, hhead, if_pos hroom,
    List.drop_length]

private theorem next_open (hwindow : window ≠ []) (hclean : Bytes.newline ∉ window)
    (hfits : line.length + window.length < maxLine) :
    Turn.next patience ⟨line, quiet, .data window :: rest⟩ = .inr ⟨line ++ window, 0, rest⟩ := by
  have hempty : window.isEmpty = false := by simpa using hwindow
  have hoffered : window.take (maxLine - line.length) = window :=
    List.take_of_length_le (by omega)
  have hshort : ¬maxLine ≤ (line ++ window).length := by
    rw [List.length_append]
    omega
  simp only [Turn.next, Turn.room, hempty, hoffered, intake_of_not_mem hclean, List.take_length,
    List.drop_length, hshort, Bool.false_eq_true, decide_false, Bool.or_self, if_false]
  rfl

private theorem readFrom_newline (hclean : Bytes.newline ∉ head)
    (hfits : line.length + head.length < maxLine) :
    readFrom patience line quiet (.data (head ++ Bytes.newline :: after) :: rest) =
      .chunk (line ++ head ++ [Bytes.newline]) (remaining after rest) := by
  have hempty : (head ++ Bytes.newline :: after).isEmpty = false := by simp
  have hhead : (head ++ Bytes.newline :: after).takeWhile (· != Bytes.newline) = head := by
    simpa using takeWhile_append_of_not_mem hclean (Bytes.newline :: after)
  have hroom : head.length < maxLine - line.length := by omega
  simp only [readFrom, hempty, Bool.false_eq_true, if_false, hhead, if_pos hroom, List.drop_left]

private theorem next_newline (hclean : Bytes.newline ∉ head)
    (hfits : line.length + head.length < maxLine) :
    Turn.next patience ⟨line, quiet, .data (head ++ Bytes.newline :: after) :: rest⟩ =
      .inl (.chunk (line ++ head ++ [Bytes.newline]) (remaining after rest)) := by
  have hempty : (head ++ Bytes.newline :: after).isEmpty = false := by simp
  obtain ⟨k, hk⟩ : ∃ k, maxLine - line.length = head.length + (k + 1) :=
    ⟨maxLine - line.length - head.length - 1, by omega⟩
  have hoffered : (head ++ Bytes.newline :: after).take (maxLine - line.length) =
      head ++ Bytes.newline :: after.take k := by
    rw [hk, List.take_length_add_append, List.take_succ_cons]
  have htaken : (head ++ Bytes.newline :: after.take k).take (head.length + 1) =
      head ++ [Bytes.newline] := by
    rw [List.take_length_add_append, List.take_succ_cons, List.take_zero]
  have hleft : (head ++ Bytes.newline :: after).drop (head.length + 1) = after := by
    rw [List.drop_length_add_append, List.drop_succ_cons, List.drop_zero]
  simp only [Turn.next, Turn.room, hempty, hoffered, intake_append_newline hclean, htaken, hleft,
    Bool.false_eq_true, if_false, Bool.true_or, if_true, List.append_assoc]

private theorem readFrom_full (hwindow : head ++ left ≠ []) (hclean : Bytes.newline ∉ head)
    (hfull : head.length = maxLine - line.length) :
    readFrom patience line quiet (.data (head ++ left) :: rest) =
      .chunk (line ++ head) (remaining left rest) := by
  have hempty : (head ++ left).isEmpty = false := by simpa using hwindow
  have hroom : ¬(head ++ left.takeWhile (· != Bytes.newline)).length < head.length := by
    rw [List.length_append]
    omega
  simp only [readFrom, hempty, Bool.false_eq_true, if_false, takeWhile_append_of_not_mem hclean,
    hroom, ← hfull, List.take_left, List.drop_left]

private theorem next_full (hwindow : head ++ left ≠ []) (hclean : Bytes.newline ∉ head)
    (hfull : head.length = maxLine - line.length) :
    Turn.next patience ⟨line, quiet, .data (head ++ left) :: rest⟩ =
      .inl (.chunk (line ++ head) (remaining left rest)) := by
  have hempty : (head ++ left).isEmpty = false := by simpa using hwindow
  have hlong : maxLine ≤ (line ++ head).length := by
    rw [List.length_append]
    omega
  simp only [Turn.next, Turn.room, hempty, ← hfull, List.take_left, intake_of_not_mem hclean,
    List.take_length, List.drop_left, hlong, Bool.false_eq_true, if_false, decide_true,
    Bool.or_true, if_true]

private theorem readFrom_eq_next (patience : Option Nat) (t : Turn) :
    readFrom patience t.line t.quiet t.events =
      match t.next patience with
      | .inl r => r
      | .inr u => readFrom patience u.line u.quiet u.events := by
  obtain ⟨line, quiet, events⟩ := t
  cases events with
  | nil => simp only [readFrom, Turn.next]
  | cons e rest =>
    cases e with
    | data window =>
      by_cases hwindow : window = []
      · subst hwindow
        rfl
      · rcases window_cases line window with
          ⟨hclean, hfits⟩ | ⟨head, after, rfl, hclean, hfits⟩ | ⟨head, left, rfl, hclean, hfull⟩
        · rw [readFrom_open hwindow hclean hfits, next_open hwindow hclean hfits]
        · rw [readFrom_newline hclean hfits, next_newline hclean hfits]
        · rw [readFrom_full hwindow hclean hfull, next_full hwindow hclean hfull]
    | idle ms =>
      simp only [readFrom, Turn.next]
      split <;> rfl
    | failed cause => rfl

/-- What another turn can come from: nothing has been found, or a window that leaves the line open,
or a silence. -/
private theorem next_eq_inr (h : t.next patience = .inr u) :
    (∃ rest, t.events = .data [] :: rest ∧ u = ⟨t.line, t.quiet, rest⟩) ∨
      (∃ window rest, t.events = .data window :: rest ∧ window ≠ [] ∧
        t.line.length + window.length < maxLine ∧ u = ⟨t.line ++ window, 0, rest⟩) ∨
      ∃ ms rest, t.events = .idle ms :: rest ∧ u = ⟨t.line, t.quiet + ms, rest⟩ := by
  obtain ⟨line, quiet, events⟩ := t
  cases events with
  | nil => cases h
  | cons e rest =>
    cases e with
    | data window =>
      by_cases hwindow : window = []
      · subst hwindow
        exact .inl ⟨rest, rfl, (Sum.inr.inj h).symm⟩
      · rcases window_cases line window with
          ⟨hclean, hfits⟩ | ⟨head, after, rfl, hclean, hfits⟩ | ⟨head, left, rfl, hclean, hfull⟩
        · rw [next_open hwindow hclean hfits] at h
          exact .inr (.inl ⟨window, rest, rfl, hwindow, hfits, (Sum.inr.inj h).symm⟩)
        · rw [next_newline hclean hfits] at h
          cases h
        · rw [next_full hwindow hclean hfull] at h
          cases h
    | idle ms =>
      simp only [Turn.next] at h
      split at h
      · cases h
      · exact .inr (.inr ⟨ms, rest, rfl, (Sum.inr.inj h).symm⟩)
    | failed cause => cases h

private theorem length_line_of_next (ht : t.line.length < maxLine) (h : t.next patience = .inr u) :
    u.line.length < maxLine ∧ t.line.length + (if t.hears then 1 else 0) ≤ u.line.length := by
  rcases next_eq_inr h with
    ⟨rest, hevents, rfl⟩ | ⟨window, rest, hevents, hwindow, hfits, rfl⟩ | ⟨ms, rest, hevents, rfl⟩
  · simp [Turn.hears, hevents, ht]
  · have hpos : 0 < window.length := List.length_pos_iff.mpr hwindow
    rw [List.length_append]
    refine ⟨hfits, ?_⟩
    split <;> omega
  · simp [Turn.hears, hevents, ht]

private theorem Turns.result_eq (h : Turns patience t ts r) :
    r = readFrom patience t.line t.quiet t.events := by
  induction h with
  | last hnext => rw [readFrom_eq_next, hnext]
  | more hnext _ ih => rw [readFrom_eq_next, hnext, ih]

private theorem exists_turns (patience : Option Nat) (t : Turn) :
    ∃ ts r, Turns patience t ts r := by
  obtain ⟨line, quiet, events⟩ := t
  induction events generalizing line quiet with
  | nil => exact ⟨_, _, .last rfl⟩
  | cons e events ih =>
    cases hnext : Turn.next patience ⟨line, quiet, e :: events⟩ with
    | inl r => exact ⟨_, r, .last hnext⟩
    | inr u =>
      have hevents : u.events = events := by
        rcases next_eq_inr hnext with
          ⟨rest, heq, rfl⟩ | ⟨window, rest, heq, -, -, rfl⟩ | ⟨ms, rest, heq, rfl⟩ <;>
          exact (List.cons.inj heq).2.symm
      obtain ⟨ts, r, hturns⟩ := ih u.line u.quiet
      rw [← hevents] at hturns
      exact ⟨_, r, .more hnext hturns⟩

private theorem Turns.length_line_lt (h : Turns patience t ts r) (ht : t.line.length < maxLine) :
    ∀ u ∈ ts, u.line.length < maxLine := by
  induction h with
  | last => simpa using ht
  | more hnext _ ih =>
    obtain ⟨hroom, -⟩ := length_line_of_next ht hnext
    exact List.forall_mem_cons.mpr ⟨ht, ih hroom⟩

private theorem Turns.length_line_add_countP_le (h : Turns patience t ts r)
    (ht : t.line.length < maxLine) : t.line.length + ts.countP Turn.hears ≤ maxLine := by
  induction h with
  | last =>
    rw [List.countP_singleton]
    split <;> omega
  | more hnext _ ih =>
    obtain ⟨hroom, hadded⟩ := length_line_of_next ht hnext
    have hrest := ih hroom
    rw [List.countP_cons]
    omega

end

/-! ### Readings of a stream -/

section

variable {patience : Option Nat} {startsLine : Bool} {events rest : List Event} {bytes : Bytes}
  {cs : List Chunk}

private theorem failure?_of_read (hfailure : failure? events = none)
    (h : read patience events = .chunk bytes rest) : failure? rest = none := by
  have hread := read_agrees patience events
  rw [h] at hread
  exact hread.2.trans hfailure

private theorem received_of_read (hfailure : failure? events = none)
    (h : read patience events = .chunk bytes rest) :
    bytes ≠ [] ∧ received events = bytes ++ received rest := by
  have hflatten (events : List Event) (hnone : failure? events = none) :
      received events = (cutFrom true [] (signals patience events)).flatten := by
    obtain ⟨lost, hlost, -, -, hcomplete⟩ :=
      (areCutsOf_cutFrom true (signals patience events)).flatten
    rw [bytes_signals, hcomplete rfl, List.append_nil] at hlost
    exact hlost
  have hread := read_agrees patience events
  rw [h, hfailure] at hread
  obtain ⟨hcuts, -⟩ := hread
  rw [Option.isNone_none] at hcuts
  have hbytes := (areCutsOf_cutFrom true (signals patience events)).bytes
  rw [hcuts] at hbytes
  refine ⟨(hbytes bytes List.mem_cons_self).1, ?_⟩
  rw [hflatten events hfailure, hcuts, List.flatten_cons,
    ← hflatten rest (failure?_of_read hfailure h)]

private theorem Reads.length_add_le (h : Reads patience startsLine events cs rest)
    (hfailure : failure? events = none) :
    cs.length + (received rest).length ≤ (received events).length := by
  induction h with
  | nil => simp
  | cons startsLine hread _ ih =>
    obtain ⟨hne, hreceived⟩ := received_of_read hfailure hread
    have hpos := List.length_pos_iff.mpr hne
    have hrest := ih (failure?_of_read hfailure hread)
    rw [hreceived, List.length_append, List.length_cons]
    omega

private theorem exists_reads_ended (patience : Option Nat) (startsLine : Bool) (events : List Event)
    (hfailure : failure? events = none) :
    ∃ cs rest, Reads patience startsLine events cs rest ∧ read patience rest = .ended := by
  cases h : read patience events with
  | chunk bytes rest =>
    have hshorter := weight_read_lt h
    obtain ⟨cs, left, hreads, hended⟩ :=
      exists_reads_ended patience (endsLine bytes) rest (failure?_of_read hfailure h)
    exact ⟨⟨bytes, startsLine⟩ :: cs, left, .cons startsLine h hreads, hended⟩
  | ended => exact ⟨[], events, .nil startsLine events, h⟩
  | failed cause rest =>
    have hread := read_agrees patience events
    rw [h, hfailure] at hread
    cases hread.2
termination_by weight events

end

/-- Every reading is a run of turns and comes to its end, at the start of a stream as well as at
what an earlier reading has left. In a turn that finds a window the line is shorter than a line may
be, so that a part of the window is offered and something of it is taken. No reading finds more
windows than a line may have bytes, be the end of the stream counted as one. A stream that does not
fail gives at most as many chunks as bytes, and then it ends. -/
theorem read_in_bounded_turns (patience : Option Nat) (events : List Event) :
    (∃ ts, Turns patience (.start events) ts (read patience events)) ∧
    (∀ ts r, Turns patience (.start events) ts r →
      r = read patience events ∧ ts.countP Turn.hears ≤ maxLine ∧
      ∀ t ∈ ts, ∀ window rest, t.events = .data window :: rest → window ≠ [] →
        t.line.length < maxLine ∧ 1 ≤ t.room ∧ window.take t.room ≠ [] ∧
        0 < (intake (window.take t.room)).1 ∧
        (intake (window.take t.room)).1 ≤ (window.take t.room).length) ∧
    (failure? events = none →
      (∃ cs rest, Reads patience true events cs rest ∧ read patience rest = .ended) ∧
      ∀ cs rest, Reads patience true events cs rest → cs.length ≤ (received events).length) := by
  have hstart : (Turn.start events).line.length < maxLine := by
    change 0 < maxLine
    decide
  refine ⟨?_, fun ts r hturns => ⟨hturns.result_eq, ?_, ?_⟩, fun hfailure => ⟨?_, ?_⟩⟩
  · obtain ⟨ts, r, hturns⟩ := exists_turns patience (.start events)
    obtain rfl : r = read patience events := hturns.result_eq
    exact ⟨ts, hturns⟩
  · have hcount := hturns.length_line_add_countP_le hstart
    omega
  · intro t ht window rest _ hwindow
    have hline : t.line.length < maxLine := hturns.length_line_lt hstart t ht
    have hroom : 1 ≤ t.room := by
      rw [Turn.room]
      omega
    have hoffered : window.take t.room ≠ [] := by
      rw [Ne, List.take_eq_nil_iff, not_or]
      exact ⟨by omega, hwindow⟩
    exact ⟨hline, hroom, hoffered, intake_bounds hoffered⟩
  · exact exists_reads_ended patience true events hfailure
  · intro cs rest hreads
    have hcount := hreads.length_add_le hfailure
    omega

theorem read_in_bounded_turns_three_windows :
    let second : List Event := [.data (Bytes.ofString "ot"), .idle 4,
      .data (Bytes.ofString ":\n$"), .idle 9]
    let events : List Event := .data (Bytes.ofString "bo") :: second
    let ts : List Turn := [.start events, ⟨Bytes.ofString "bo", 0, second⟩,
      ⟨Bytes.ofString "boot", 0, second.drop 1⟩, ⟨Bytes.ofString "boot", 4, second.drop 2⟩]
    let r := Reading.chunk (Bytes.ofString "boot:\n") [.data (Bytes.ofString "$"), .idle 9]
    Turns (some 5) (.start events) ts r ∧ failure? events = none ∧ r = read (some 5) events ∧
      ts.countP Turn.hears ≤ maxLine ∧
      ∀ cs rest, Reads (some 5) true events cs rest → cs.length ≤ 7 := by
  intro second events ts r
  have hturns : Turns (some 5) (.start events) ts r :=
    .more (by decide +kernel) (.more (by decide +kernel) (.more (by decide +kernel)
      (.last (by decide +kernel))))
  have hfailure : failure? events = none := rfl
  have hlength : (received events).length = 7 := by decide +kernel
  obtain ⟨-, hall, hstream⟩ := read_in_bounded_turns (some 5) events
  obtain ⟨hresult, hcount, -⟩ := hall ts r hturns
  refine ⟨hturns, hfailure, hresult, hcount, ?_⟩
  rw [← hlength]
  exact (hstream hfailure).2

end PxeLaunch.Noise

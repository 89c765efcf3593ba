import PxeLaunch.Proofs.Regex.Layout
import PxeLaunch.Proofs.Regex.Step
import PxeLaunch.Regex.Pattern

/-!
Searching text with a pattern that was compiled for text or for bytes. The two differ in the places
where a match may start: for bytes, these are also the places inside a character.
-/

set_option autoImplicit false

namespace PxeLaunch.Regex

/-! ### Places inside a character -/

structure Position.IsInside (p : Position) : Prop where
  before : ∃ b rest, p.before = b :: rest ∧ 0x80 ≤ b
  after : ∃ b rest, p.after = b :: rest ∧ Utf8.isContinuation b = true
  broken : p.charBefore = some none

/-- The conditions that hold inside a character: with Unicode off, those that no word be there. -/
def Look.holdsInside : Look → Bool
  | .notWordBoundary unicode | .wordStartHalf unicode | .wordEndHalf unicode => !unicode
  | _ => false

namespace Position

private theorem isWordByte_eq_false {b : UInt8} (h : 0x80 ≤ b) : isWordByte b = false := by
  simp only [isWordByte, UInt8.le_iff_toNat_le, ← UInt8.toNat_inj, UInt8.reduceToNat] at h ⊢
  simp
  omega

variable {p : Position}

private theorem IsInside.wordBefore (h : p.IsInside) (unicode : Bool) :
    p.wordBefore unicode = false := by
  obtain ⟨b, rest, hbefore, hb⟩ := h.before
  cases unicode with
  | true => simp [Position.wordBefore, h.broken, isWordSide]
  | false => simp [Position.wordBefore, hbefore, isWordByte_eq_false hb]

private theorem IsInside.charAfter (h : p.IsInside) : p.charAfter = some none := by
  obtain ⟨b, rest, hafter, hb⟩ := h.after
  simp [Position.charAfter, hafter, Utf8.first?_of_isContinuation hb]

private theorem IsInside.wordAfter (h : p.IsInside) (unicode : Bool) :
    p.wordAfter unicode = false := by
  obtain ⟨b, rest, hafter, hb⟩ := h.after
  have hhigh : 0x80 ≤ b := by simpa using (Bool.and_eq_true_iff.mp hb).1
  cases unicode with
  | true => simp [Position.wordAfter, h.charAfter, isWordSide]
  | false => simp [Position.wordAfter, hafter, isWordByte_eq_false hhigh]

private theorem IsInside.satisfies (h : p.IsInside) {l : Look} (hl : l.holdsInside = false) :
    p.satisfies l = false := by
  obtain ⟨a, before, hbefore, ha⟩ := h.before
  obtain ⟨b, after, hafter, hb⟩ := h.after
  have hhigh : 0x80 ≤ b := by simpa using (Bool.and_eq_true_iff.mp hb).1
  have hne (c : UInt8) (hc : 0x80 ≤ c) : c ≠ 10 ∧ c ≠ 13 := by
    constructor <;>
    · rintro rfl
      exact absurd hc (by decide)
  obtain ⟨ha₁, ha₂⟩ := hne a ha
  obtain ⟨hb₁, hb₂⟩ := hne b hhigh
  cases l with
  | textStart | textEnd | lineStart | lineEnd | crlfLineStart | crlfLineEnd =>
    simp [Position.satisfies, hbefore, hafter, ha₁, ha₂, hb₁, hb₂]
  | wordBoundary | wordStart | wordEnd =>
    simp [Position.satisfies, h.wordBefore, h.wordAfter]
  | notWordBoundary unicode | wordStartHalf unicode | wordEndHalf unicode =>
    obtain rfl : unicode = true := by simpa [Look.holdsInside] using hl
    simp [Position.satisfies, h.broken, h.charAfter, isBroken]

end Position

/-! ### Ways that come to nothing -/

section

variable {code : Array Instruction} {p next : Position} {offset : Nat}

/-- Whether a way of matching cannot read what comes next, and has not finished. -/
def Thread.IsStuck (code : Array Instruction) (p : Position) (t : Thread) : Prop :=
  t.skip = 0 ∧ code[t.pc]? ≠ some .accept ∧
    (∀ set b rest, code[t.pc]? = some (.byte set) → p.after = b :: rest →
      set.contains b.toNat = false) ∧
    (∀ set, code[t.pc]? = some (.char set) → Utf8.first? p.after = none)

private theorem Thread.IsStuck.next? {t : Thread} (h : t.IsStuck code p) :
    t.next? code p = none := by
  obtain ⟨hskip, -, hbyte, hchar⟩ := h
  rw [Thread.next?_of_skip hskip, Option.map_eq_none_iff, Option.bind_eq_none_iff]
  intro i hi
  rw [Option.eq_none_iff_forall_ne_some]
  intro n hreads
  cases i with
  | byte set =>
    obtain ⟨-, b, rest, hafter, hmem⟩ := Instruction.reads_byte.mp hreads
    simp [hbyte set b rest hi hafter] at hmem
  | char set =>
    obtain ⟨c, hfirst, -⟩ := Instruction.reads_char.mp hreads
    simp [hchar set hi] at hfirst
  | _ => simp [Instruction.reads] at hreads

/-- A way that has finished ends a step; any other one is advanced or given up, and has no part in
the rest of the step. -/
private theorem step_cons (code : Array Instruction) (p next : Position) (offset : Nat) (t : Thread)
    (f : Frontier) :
    (t.skip = 0 ∧ code[t.pc]? = some .accept ∧
      ∀ rest, step code p next offset (t :: rest) f = (f, some t.slots)) ∨
    ((t.skip = 0 → code[t.pc]? ≠ some .accept) ∧ ∃ f', (t.IsStuck code p → f' = f) ∧
      ∀ rest, step code p next offset (t :: rest) f = step code p next offset rest f') := by
  by_cases haccept : t.skip = 0 ∧ code[t.pc]? = some .accept
  · exact .inl ⟨haccept.1, haccept.2, fun rest =>
      step_cons_of_accept haccept.1 haccept.2 p next offset rest f⟩
  refine .inr ⟨fun hskip h => haccept ⟨hskip, h⟩, ?_⟩
  cases hnext : t.next? code p with
  | none =>
    have hopen : code[t.pc]? ≠ some .accept := fun h => haccept ⟨Thread.skip_of_next? hnext, h⟩
    exact ⟨f, fun _ => rfl, fun rest => step_cons_of_next_none hnext hopen next offset rest f⟩
  | some found =>
    refine ⟨f.receive code next (offset + 1) found.1 found.2 t.slots, fun hstuck => ?_, fun rest =>
      step_cons_of_next hnext next offset rest f⟩
    rw [hstuck.next?] at hnext
    exact nomatch hnext

private theorem step_stuck {stuck : List Thread} (h : ∀ t ∈ stuck, t.IsStuck code p)
    (f : Frontier) : step code p next offset stuck f = (f, none) := by
  induction stuck with
  | nil => rw [step]
  | cons t rest ih =>
    have ht := h t List.mem_cons_self
    rcases step_cons code p next offset t f with ⟨_, haccept, _⟩ | ⟨_, f', hf', hstep⟩
    · exact absurd haccept ht.2.1
    · rw [hstep, hf' ht]
      exact ih fun u hu => h u (List.mem_cons_of_mem t hu)

private theorem step_append {stuck : List Thread} (h : ∀ t ∈ stuck, t.IsStuck code p)
    (threads : List Thread) (f : Frontier) :
    step code p next offset (threads ++ stuck) f = step code p next offset threads f := by
  induction threads generalizing f with
  | nil => rw [List.nil_append, step_stuck h f, step]
  | cons t rest ih =>
    rcases step_cons code p next offset t f with ⟨_, _, hstep⟩ | ⟨_, f', _, hstep⟩
    · rw [List.cons_append, hstep, hstep]
    · rw [List.cons_append, hstep, hstep, ih]

private theorem step_isSome {threads : List Thread} {t : Thread} (ht : t ∈ threads)
    (hskip : t.skip = 0)
    (haccept : code[t.pc]? = some .accept) (p next : Position) (offset : Nat) (f : Frontier) :
    (step code p next offset threads f).2.isSome = true := by
  induction threads generalizing f with
  | nil => simp at ht
  | cons u rest ih =>
    rcases step_cons code p next offset u f with ⟨_, _, hstep⟩ | ⟨hopen, f', _, hstep⟩
    · rw [hstep]
      rfl
    · rw [hstep]
      rcases List.mem_cons.mp ht with rfl | ht
      · exact absurd haccept (hopen hskip)
      · exact ih ht f'

/-! ### Searches that start inside a character -/

/-- Whether a program, once entered at a position, has a match there without reading. -/
def MatchesAt (code : Array Instruction) (p : Position) : Prop :=
  ∃ pc, Frontier.Reaches code p 0 pc ∧ code[pc]? = some .accept

/-- A program for text without the conditions that hold inside a character. -/
structure IsWhole (code : Array Instruction) : Prop where
  start : IsEntry code.toList 0
  targets : ∀ (pc : Nat) (i : Instruction), code[pc]? = some i →
    ∀ t ∈ i.targets pc, IsEntry code.toList t
  looks : ∀ (pc : Nat) (l : Look), code[pc]? = some (.look l) → l.holdsInside = false

private theorem targetsAt_subset {i : Instruction} {pc t : Nat} (h : t ∈ i.targetsAt p pc) :
    t ∈ i.targets pc := by
  cases i with
  | look l =>
    simp only [Instruction.targetsAt] at h
    split at h
    · exact h
    · simp at h
  | _ => exact h

/-- What is reached inside a character is reached everywhere, since no condition has been passed. -/
private theorem IsWhole.reaches (hcode : IsWhole code) (hp : p.IsInside) {q : Position} {a b : Nat}
    (h : Frontier.Reaches code p a b) : Frontier.Reaches code q a b := by
  refine Relation.ReflTransGen.mono ?_ a b h
  rintro c d ⟨i, hi, hmem⟩
  refine ⟨i, hi, ?_⟩
  cases i with
  | look l => simp [Instruction.targetsAt, hp.satisfies (hcode.looks c l hi)] at hmem
  | _ => exact hmem

private theorem IsWhole.isEntry_of_reaches (hcode : IsWhole code) {pc : Nat}
    (h : Frontier.Reaches code p 0 pc) : IsEntry code.toList pc := by
  cases h with
  | refl => exact hcode.start
  | tail _ hstep =>
    obtain ⟨i, hi, hmem⟩ := hstep
    exact hcode.targets _ i hi pc (targetsAt_subset hmem)

/-- A search that starts inside a character comes to nothing there, unless the program matches
without reading. -/
private theorem IsWhole.exists_threads_enter (hcode : IsWhole code) (hp : p.IsInside)
    (hmatch : ¬MatchesAt code p) (offset : Nat) (f : Frontier) :
    ∃ stuck, (f.enter code p offset 0 []).threads = stuck ++ f.threads ∧
      ∀ t ∈ stuck, t.IsStuck code p := by
  have hreach : ∀ pc i, Frontier.Reaches code p 0 pc → code[pc]? = some i →
      ∀ t ∈ i.targetsAt p pc, Frontier.Reaches code p 0 t :=
    fun pc i hpc hi t ht => hpc.tail ⟨i, hi, ht⟩
  obtain ⟨stuck, hthreads, hall⟩ := Frontier.exists_threads_follow hreach offset
    (2 * code.size + 2) [(0, [])] f
    (fun x hx => by rw [List.mem_singleton.mp hx]; exact Relation.ReflTransGen.refl)
  refine ⟨stuck, hthreads, fun t ht => ?_⟩
  obtain ⟨hskip, hreaches⟩ := hall t ht
  obtain ⟨b, rest, hafter, hb⟩ := hp.after
  refine ⟨hskip, fun haccept => hmatch ⟨t.pc, hreaches, haccept⟩, fun set c more hset hc => ?_,
    fun set _ => by rw [hafter]; exact Utf8.first?_of_isContinuation hb rest⟩
  rw [hafter, List.cons.injEq] at hc
  obtain ⟨rfl, -⟩ := hc
  cases hmem : set.contains b.toNat with
  | false => rfl
  | true =>
    exact absurd ⟨b, hb, hmem⟩
      (hcode.isEntry_of_reaches hreaches (.byte set) (by simpa using hset))

/-! ### Both searches in step -/

variable {before rest : Bytes} {f : Frontier} {best : Option Slots}

private theorem run_of_isSome (h : best.isSome = true) (before : Bytes) (offset : Nat)
    (f : Frontier) (rest : Bytes) :
    run code true best before offset f rest = run code false best before offset f rest := by
  induction rest generalizing best before offset f with
  | nil => rfl
  | cons b rest ih =>
    obtain ⟨slots, rfl⟩ := Option.isSome_iff_exists.mp h
    simp only [run, Option.isNone_some, Bool.false_and, Bool.false_eq_true, if_false]
    split
    · rfl
    · refine ih ?_ _ _ _
      cases (step code ⟨before, b :: rest⟩ ⟨b :: before, rest⟩ offset f.threads.reverse
        (.none code)).2 <;> rfl

private theorem run_of_not_isContinuation {b : UInt8} (hb : Utf8.isContinuation b = false)
    (h : ∀ best f, run code true best (b :: before) (offset + 1) f rest =
      run code false best (b :: before) (offset + 1) f rest) :
    run code true best before offset f (b :: rest) =
      run code false best before offset f (b :: rest) := by
  simp only [run, hb, Bool.not_false, Bool.or_true, h]

/-- A search that is started inside a character changes nothing, unless the program matches without
reading. -/
private theorem IsWhole.run_of_isInside (hcode : IsWhole code) {b : UInt8}
    (hp : Position.IsInside ⟨before, b :: rest⟩) (hmatch : ¬MatchesAt code ⟨before, b :: rest⟩)
    (h : ∀ best f, run code true best (b :: before) (offset + 1) f rest =
      run code false best (b :: before) (offset + 1) f rest) :
    run code true best before offset f (b :: rest) =
      run code false best before offset f (b :: rest) := by
  have hb : Utf8.isContinuation b = true := by
    obtain ⟨c, more, hafter, hc⟩ := hp.after
    rw [(List.cons.inj hafter).1]
    exact hc
  cases best with
  | some slots => exact run_of_isSome rfl before offset f (b :: rest)
  | none =>
    obtain ⟨stuck, hthreads, hstuck⟩ := hcode.exists_threads_enter hp hmatch offset f
    simp only [run, hb, Option.isNone_none, Option.isSome_none, Bool.not_true, Bool.or_false,
      Bool.true_and, Bool.and_false, Bool.false_eq_true, if_false, if_true, hthreads,
      List.reverse_append, step_append (fun t ht => hstuck t (List.mem_reverse.mp ht))]
    exact h _ _

end

/-! ### Places inside the characters of a text -/

private theorem Position.lastCharBytes_reverse {lead : UInt8}
    (hlead : Utf8.isContinuation lead = false)
    (before found : Bytes) {done : Bytes} (hdone : ∀ b ∈ done, Utf8.isContinuation b = true)
    {n : Nat} (hn : done.length ≤ n) :
    lastCharBytes found n (done ++ lead :: before) = lead :: (done.reverse ++ found) := by
  induction done generalizing found n with
  | nil =>
    have hstop : (0x80 ≤ lead && lead ≤ 0xBF) = false := hlead
    cases n <;> simp [lastCharBytes, hstop]
  | cons b done ih =>
    obtain ⟨n, rfl⟩ : ∃ m, n = m + 1 := ⟨n - 1, by simp at hn; omega⟩
    have hb : (0x80 ≤ b && b ≤ 0xBF) = true := hdone b List.mem_cons_self
    rw [List.cons_append, lastCharBytes, if_pos hb,
      ih _ (fun c hc => hdone c (List.mem_cons_of_mem b hc)) (by simpa using hn)]
    simp

private theorem Position.isInside_of_isCharacter {lead b : UInt8} {done more : Bytes}
    (h : Utf8.IsCharacter lead (done ++ b :: more)) (before rest : Bytes) :
    IsInside ⟨done.reverse ++ lead :: before, b :: rest⟩ where
  before := by
    have hhigh : 0x80 ≤ lead := by
      rcases h.alone_or_high with ⟨-, hnil⟩ | ⟨hhigh, -⟩
      · simp at hnil
      · exact UInt8.le_trans (by decide) hhigh
    cases hrev : done.reverse with
    | nil => exact ⟨lead, before, rfl, hhigh⟩
    | cons d rev =>
      have hmem : d ∈ done := List.mem_reverse.mp (hrev ▸ List.mem_cons_self)
      have hd : Utf8.isContinuation d = true := h.continues d (List.mem_append_left _ hmem)
      exact ⟨d, rev ++ lead :: before, rfl, by simpa using (Bool.and_eq_true_iff.mp hd).1⟩
  after := ⟨b, rest, rfl, h.continues b (by simp)⟩
  broken := by
    have hlength : done.reverse.length ≤ 3 := by
      have hle := h.length_le
      rw [List.length_append] at hle
      rw [List.length_reverse]
      omega
    have hbytes := lastCharBytes_reverse h.begins before []
      (fun d hd => h.continues d (List.mem_append_left _ (List.mem_reverse.mp hd))) hlength
    rw [List.reverse_reverse, List.append_nil] at hbytes
    cases hbefore : done.reverse ++ lead :: before with
    | nil => simp at hbefore
    | cons d rest' =>
      rw [hbefore] at hbytes
      simp only [charBefore, hbytes, h.unfinished done b more rfl, Option.map_none]

section

variable {code : Array Instruction}

private theorem IsWhole.run_tail (hcode : IsWhole code) {rest : Bytes}
    (hmatch : ∀ p : Position, p.IsInside → ¬MatchesAt code p)
    (h : ∀ best before offset f, run code true best before offset f rest =
      run code false best before offset f rest)
    {tail before : Bytes} (hinside : ∀ done b more, tail = done ++ b :: more →
      Position.IsInside ⟨done.reverse ++ before, b :: (more ++ rest)⟩)
    (best : Option Slots) (offset : Nat) (f : Frontier) :
    run code true best before offset f (tail ++ rest) =
      run code false best before offset f (tail ++ rest) := by
  induction tail generalizing best before offset f with
  | nil => exact h best before offset f
  | cons b tail ih =>
    have hp := hinside [] b tail rfl
    refine hcode.run_of_isInside hp (hmatch _ hp) fun best f =>
      ih (fun done c more hmore => ?_) _ _ _
    simpa using hinside (b :: done) c more (by rw [hmore]; rfl)

private theorem IsWhole.run_ofChars (hcode : IsWhole code)
    (hmatch : ∀ p : Position, p.IsInside → ¬MatchesAt code p) (cs : List Char)
    (best : Option Slots) (before : Bytes) (offset : Nat) (f : Frontier) :
    run code true best before offset f (Bytes.ofChars cs) =
      run code false best before offset f (Bytes.ofChars cs) := by
  induction cs generalizing best before offset f with
  | nil => rfl
  | cons c cs ih =>
    obtain ⟨lead, tail, hcons, hcharacter⟩ := Utf8.exists_ofChars_cons c cs
    rw [hcons]
    refine run_of_not_isContinuation hcharacter.begins fun best f =>
      hcode.run_tail hmatch ih (fun done b more htail => ?_) best _ f
    exact Position.isInside_of_isCharacter (htail ▸ hcharacter) before _

private theorem run_of_matchesAt (hmatch : ∀ p, MatchesAt code p) {rest : Bytes}
    (hrest : ∀ b more, rest = b :: more → Utf8.isContinuation b = false) :
    run code true none [] 0 (.none code) rest = run code false none [] 0 (.none code) rest := by
  cases rest with
  | nil => rfl
  | cons b rest =>
    obtain ⟨pc, hreaches, haccept⟩ := hmatch ⟨[], b :: rest⟩
    obtain ⟨t, ht, rfl, hskip⟩ :=
      (Frontier.isClosed_none code ⟨[], b :: rest⟩).exists_thread_enter 0 [] hreaches haccept rfl
    have hfound := step_isSome (List.mem_reverse.mpr ht) hskip haccept ⟨[], b :: rest⟩ ⟨[b], rest⟩ 0
      (.none code)
    simp only [run, hrest b rest rfl, Option.isNone_none, Option.isSome_none, Bool.not_false,
      Bool.or_true, Bool.and_self, Bool.and_false, Bool.false_eq_true, if_false, if_true]
    refine run_of_isSome ?_ _ _ _ _
    obtain ⟨slots, hslots⟩ := Option.isSome_iff_exists.mp hfound
    rw [hslots]
    rfl

private theorem IsWhole.search_ofString {program : Program} (hcode : IsWhole program.code)
    (s : String) :
    search program true (Bytes.ofString s) = search program false (Bytes.ofString s) := by
  by_cases hmatch : ∀ p : Position, p.IsInside → ¬MatchesAt program.code p
  · exact hcode.run_ofChars hmatch s.toList none [] 0 _
  · obtain ⟨p, hp, pc, hreaches, haccept⟩ :
        ∃ p : Position, p.IsInside ∧ MatchesAt program.code p := by
      simpa using hmatch
    refine run_of_matchesAt (fun q => ⟨pc, hcode.reaches hp hreaches, haccept⟩)
      fun b more hmore => ?_
    have hchars : Bytes.ofChars s.toList = b :: more := hmore
    cases hs : s.toList with
    | nil => simp [hs, Bytes.ofChars] at hchars
    | cons c cs =>
      obtain ⟨lead, tail, hcons, hcharacter⟩ := Utf8.exists_ofChars_cons c cs
      rw [hs, hcons] at hchars
      exact (List.cons.inj hchars).1 ▸ hcharacter.begins

end

/-! ### Patterns for text and for bytes -/

def Program.looksInside (p : Program) : Bool :=
  p.code.any fun
    | .look l => l.holdsInside
    | _ => false

namespace Pattern


theorem compile_eq_ok {subject : Subject} {source : String} {t : Pattern} :
    compile subject source = .ok t ↔
      ∃ parsed node matchesInvalid, parse? source.toList = some parsed ∧
        Node.ofExpression? parsed.expression = some (node, matchesInvalid) ∧
        (subject = .text → matchesInvalid = false) ∧ node.fits = true ∧
        t = ⟨source, subject, .ofNode node parsed.names⟩ := by
  unfold compile
  cases hparse : parse? source.toList with
  | none => simp
  | some parsed =>
    cases hnode : Node.ofExpression? parsed.expression with
    | none => simp [hnode]
    | some found =>
      obtain ⟨node, matchesInvalid⟩ := found
      cases subject <;> cases matchesInvalid <;> cases hfits : node.fits <;>
        simp [hnode, hfits] <;> exact eq_comm

theorem compile_bytes_of_text {source : String} {t : Pattern} (h : compile .text source = .ok t) :
    compile .bytes source = .ok { t with subject := .bytes } := by
  obtain ⟨parsed, node, matchesInvalid, hparse, hnode, -, hfits, rfl⟩ := compile_eq_ok.mp h
  exact compile_eq_ok.mpr ⟨parsed, node, matchesInvalid, hparse, hnode, by simp, hfits, rfl⟩

private theorem isWhole_of_compile {source : String} {t : Pattern}
    (h : compile .text source = .ok t)
    (hlooks : t.program.looksInside = false) : IsWhole t.program.code := by
  obtain ⟨parsed, node, matchesInvalid, -, hnode, hvalid, -, rfl⟩ := compile_eq_ok.mp h
  obtain rfl := hvalid rfl
  obtain ⟨hstart, htargets⟩ := isEntry_ofNode (Node.isText_ofExpression hnode) parsed.names
  refine ⟨hstart, fun pc i hi => htargets pc i (by simpa using hi), fun pc l hl => ?_⟩
  have hall := Array.any_eq_false'.mp hlooks (.look l) (Array.mem_of_getElem? hl)
  simpa using hall

/-- Compiled for text or for bytes, a pattern matches the same texts, if it has no condition that
holds inside a character. -/
theorem isMatch_bytes_of_text {source : String} {t : Pattern} (h : compile .text source = .ok t)
    (hlooks : t.program.looksInside = false) (s : String) :
    { t with subject := .bytes }.isMatch (Bytes.ofString s) = t.isMatch (Bytes.ofString s) := by
  have hsubject : t.subject = .text := by
    obtain ⟨parsed, node, matchesInvalid, -, -, -, -, rfl⟩ := compile_eq_ok.mp h
    rfl
  simp [isMatch, hsubject, (isWhole_of_compile h hlooks).search_ofString s]

end Pattern

end PxeLaunch.Regex

import PxeLaunch.Proofs.Text.Inside
import PxeLaunch.Regex.Meaning

/-!
What is read as a pattern for text. An expression that nothing was noted of has a node for text: its
literals are texts and its classes of octets hold ASCII alone. The functions that keep nodes normal
keep nodes for text as well, and the notes that are taken while the meaning is found are never taken
back.
-/

set_option autoImplicit false

namespace PxeLaunch

open Unicode (Range RangeSet)

/-! ### ASCII -/

namespace Unicode.RangeSet

private theorem isAscii_cons {r : Range} {s : RangeSet} :
    isAscii (r :: s) = true ↔ r.hi < 0x80 ∧ isAscii s = true := by
  simp [isAscii]

private theorem isAscii_insert {r : Range} {s : RangeSet} (hr : r.hi < 0x80)
    (hs : isAscii s = true) : isAscii (insert r s) = true := by
  fun_induction insert r s with
  | case1 => exact isAscii_cons.mpr ⟨hr, rfl⟩
  | case2 => exact isAscii_cons.mpr ⟨hr, hs⟩
  | case3 r q rest _ _ ih =>
    obtain ⟨hq, hrest⟩ := isAscii_cons.mp hs
    exact isAscii_cons.mpr ⟨hq, ih hr hrest⟩
  | case4 r q rest _ _ ih =>
    obtain ⟨hq, hrest⟩ := isAscii_cons.mp hs
    exact ih (by dsimp only; omega) hrest

private theorem isAscii_ofRanges {rs : List Range} (h : ∀ r ∈ rs, r.hi < 0x80) :
    isAscii (ofRanges rs) = true := by
  have hfold : ∀ (rs : List Range) (s : RangeSet), (∀ r ∈ rs, r.hi < 0x80) → isAscii s = true →
      isAscii (rs.foldl (fun s r => insert r s) s) = true := by
    intro rs
    induction rs with
    | nil => exact fun s _ hs => hs
    | cons r rest ih =>
      intro s hrs hs
      exact ih _ (fun q hq => hrs q (List.mem_cons_of_mem r hq))
        (isAscii_insert (hrs r List.mem_cons_self) hs)
  exact hfold rs [] h rfl

end Unicode.RangeSet

private theorem Bytes.ofChars_ofNat {n : Nat} (h : n < 0x80) :
    ofChars [Char.ofNat n] = [n.toUInt8] := by
  have hall : ∀ n : Fin 0x80, ofChars [Char.ofNat n.val] = [n.val.toUInt8] := by decide
  exact hall ⟨n, h⟩

namespace Regex.Node

/-! ### Nodes for text -/

mutual

/-- Whether the literals of a node are texts and its classes of octets hold ASCII alone. -/
def IsText : Node → Prop
  | .bytes text => ∃ cs, text = Bytes.ofChars cs
  | .byteClass set => set.isAscii = true
  | .repetition body _ _ _ => IsText body
  | .capture _ body => IsText body
  | .alternation branches => AllText branches
  | .concatenation parts => AllText parts
  | .empty | .charClass _ | .look _ => True

def AllText : List Node → Prop
  | [] => True
  | n :: rest => IsText n ∧ AllText rest

end

private theorem allText_iff {ns : List Node} : AllText ns ↔ ∀ n ∈ ns, n.IsText := by
  induction ns with
  | nil => simp [AllText]
  | cons n rest ih => simp [AllText, ih]

private theorem isText_ofByteClass {set : RangeSet} (h : set.isAscii = true) :
    (ofByteClass set).IsText := by
  unfold ofByteClass
  split
  · split
    · next r hr =>
      exact ⟨[Char.ofNat r.lo], (Bytes.ofChars_ofNat (by
        have := (Unicode.RangeSet.isAscii_cons.mp h).1
        omega)).symm⟩
    · exact h
  · exact h

private theorem isText_ofCharClass (set : RangeSet) : (ofCharClass set).IsText := by
  unfold ofCharClass
  split
  · exact (rfl : RangeSet.isAscii [] = true)
  · split
    · exact ⟨_, rfl⟩
    · exact trivial
  · exact trivial

private theorem isText_ofRepetition {body : Node} (h : body.IsText) (least : Nat)
    (most : Option Nat) (greedy : Bool) : (ofRepetition body least most greedy).IsText := by
  unfold ofRepetition
  dsimp only
  split_ifs <;> first | exact trivial | exact h

private theorem isText_flatParts {parts : List Node} (h : ∀ n ∈ parts, n.IsText) :
    ∀ n ∈ flatParts parts, n.IsText := by
  intro n hn
  obtain ⟨m, hm, hmem⟩ := List.mem_flatMap.mp hn
  have hself := h m hm
  cases m with
  | empty => simp at hmem
  | concatenation inner => exact allText_iff.mp hself n hmem
  | _ => exact List.mem_singleton.mp hmem ▸ hself

private theorem isText_joinLiterals {parts : List Node} (h : ∀ n ∈ parts, n.IsText) :
    ∀ n ∈ joinLiterals parts, n.IsText := by
  induction parts with
  | nil => simp [joinLiterals]
  | cons m rest ih =>
    have hm := h m List.mem_cons_self
    have hrest := ih fun n hn => h n (List.mem_cons_of_mem m hn)
    intro n hn
    unfold joinLiterals at hn
    split at hn
    · next a b others hothers =>
      rw [hothers] at hrest
      rcases List.mem_cons.mp hn with rfl | hn
      · obtain ⟨cs, rfl⟩ := hm
        obtain ⟨ds, rfl⟩ := hrest (.bytes b) List.mem_cons_self
        exact ⟨cs ++ ds, (Bytes.ofChars_append cs ds).symm⟩
      · exact hrest n (List.mem_cons_of_mem _ hn)
    · rcases List.mem_cons.mp hn with rfl | hn
      · exact hm
      · exact hrest n hn

private theorem isText_ofParts {parts : List Node} (h : ∀ n ∈ parts, n.IsText) :
    (ofParts parts).IsText := by
  have hparts := isText_joinLiterals (isText_flatParts h)
  unfold ofParts
  split
  · exact trivial
  · next n hn => exact hparts n (hn ▸ List.mem_singleton_self n)
  · exact allText_iff.mpr hparts

private theorem isText_flatBranches {branches : List Node} (h : ∀ n ∈ branches, n.IsText) :
    ∀ n ∈ flatBranches branches, n.IsText := by
  intro n hn
  obtain ⟨m, hm, hmem⟩ := List.mem_flatMap.mp hn
  have hself := h m hm
  cases m with
  | alternation inner => exact allText_iff.mp hself n hmem
  | _ => exact List.mem_singleton.mp hmem ▸ hself

private theorem mem_of_mapM_eq_some {α β : Type} {f : α → Option β} {l : List α} {bs : List β}
    (h : l.mapM f = some bs) : ∀ b ∈ bs, ∃ a ∈ l, f a = some b := by
  induction l generalizing bs with
  | nil =>
    obtain rfl : [] = bs := by simpa using h
    simp
  | cons a rest ih =>
    rw [List.mapM_cons] at h
    obtain ⟨b, hb, h⟩ := Option.bind_eq_some_iff.mp h
    obtain ⟨bs', hbs, h⟩ := Option.bind_eq_some_iff.mp h
    obtain rfl : b :: bs' = bs := by simpa using h
    intro c hc
    rcases List.mem_cons.mp hc with rfl | hc
    · exact ⟨a, List.mem_cons_self, hb⟩
    · obtain ⟨a', ha', hc'⟩ := ih hbs c hc
      exact ⟨a', List.mem_cons_of_mem a ha', hc'⟩

private theorem singleByte_lt {n : Node} {k : Nat} (h : n.IsText) (hk : n.singleByte? = some k) :
    k < 0x80 := by
  cases n with
  | bytes text =>
    obtain ⟨cs, rfl⟩ := h
    unfold singleByte? at hk
    split at hk
    · next b hb =>
      obtain rfl := Option.some.inj hk
      have hchars : Bytes.ofChars cs = [b] := Node.bytes.inj hb
      cases cs with
      | nil => simp [Bytes.ofChars] at hchars
      | cons c cs =>
        obtain ⟨lead, tail, hcons, hcharacter⟩ := Utf8.exists_ofChars_cons c cs
        rw [hcons, List.cons.injEq, List.append_eq_nil_iff] at hchars
        obtain ⟨rfl, rfl, -⟩ := hchars
        simpa [UInt8.lt_iff_toNat_lt] using hcharacter.alone_or_high
    · simp at hk
  | _ => simp [singleByte?] at hk

private theorem isAscii_octets {n : Node} {set : RangeSet} (h : n.IsText)
    (hset : n.octets? = some set) : set.isAscii = true := by
  cases n with
  | byteClass s => exact Option.some.inj hset ▸ h
  | charClass s =>
    obtain ⟨hascii, rfl⟩ : s.isAscii = true ∧ s = set := by simpa [octets?] using hset
    exact hascii
  | _ => simp [octets?] at hset

private theorem isText_classOfBranches {branches : List Node} (h : ∀ n ∈ branches, n.IsText)
    {m : Node} (hm : classOfBranches? branches = some m) : m.IsText := by
  simp only [classOfBranches?, Option.orElse_eq_orElse, Option.orElse_eq_or, Option.or_eq_some_iff,
    Option.map_eq_some_iff] at hm
  rcases hm with ⟨ns, -, rfl⟩ | ⟨-, ⟨ns, hns, rfl⟩ | ⟨-, ⟨sets, -, rfl⟩ | ⟨-, sets, hsets, rfl⟩⟩⟩
  · exact isText_ofCharClass _
  · refine isText_ofByteClass (Unicode.RangeSet.isAscii_ofRanges fun r hr => ?_)
    obtain ⟨k, hk, rfl⟩ := List.mem_map.mp hr
    obtain ⟨n, hn, hbyte⟩ := mem_of_mapM_eq_some hns k hk
    exact singleByte_lt (h n hn) hbyte
  · exact isText_ofCharClass _
  · refine isText_ofByteClass (Unicode.RangeSet.isAscii_ofRanges fun r hr => ?_)
    obtain ⟨set, hset, hr⟩ := List.mem_flatten.mp hr
    obtain ⟨n, hn, hoctets⟩ := mem_of_mapM_eq_some hsets set hset
    have hascii := isAscii_octets (h n hn) hoctets
    simpa using List.all_eq_true.mp hascii r hr

private theorem isText_sequences {branches : List Node} (h : ∀ n ∈ branches, n.IsText)
    {parts : List (List Node)} (hparts : sequences? branches = some parts) :
    ∀ ns ∈ parts, ∀ n ∈ ns, n.IsText := by
  intro ns hns
  obtain ⟨m, hm, hmem⟩ := mem_of_mapM_eq_some hparts ns hns
  have hself := h m hm
  cases m with
  | concatenation inner => exact Option.some.inj hmem ▸ allText_iff.mp hself
  | _ => simp at hmem

private theorem isText_ofBranchesFrom (fuel : Nat) {branches : List Node}
    (h : ∀ n ∈ branches, n.IsText) : (ofBranchesFrom fuel branches).IsText := by
  have hflat := isText_flatBranches h
  fun_induction ofBranchesFrom fuel branches with
  | case1 => exact (rfl : RangeSet.isAscii [] = true)
  | case2 _ _ n hn => exact hflat n (hn ▸ List.mem_singleton_self n)
  | case3 _ _ _ _ _ hclass => exact isText_classOfBranches hflat hclass
  | case4 | case6 => exact allText_iff.mpr hflat
  | case5 branches first others fuel shared _ rests _ _ _ hsequences ih =>
    have hparts := isText_sequences hflat hsequences
    have hrests : ∀ n ∈ rests, n.IsText := by
      intro n hn
      obtain ⟨parts, hmem, rfl⟩ := List.mem_map.mp hn
      exact isText_ofParts fun m hm => hparts parts hmem m (List.mem_of_mem_drop hm)
    refine isText_ofParts fun n hn => ?_
    rcases List.mem_append.mp hn with hn | hn
    · exact hparts first List.mem_cons_self n (List.mem_of_mem_take hn)
    · exact List.mem_singleton.mp hn ▸ ih hrests (isText_flatBranches hrests)

end Node

/-! ### The meaning of an expression -/

namespace Meaning

variable {α β : Type} {P : Switches → Prop}

/-- Whether notes are only added, and what is found and the switches afterwards are as said, if the
switches before are as said and nothing has been noted in the end. -/
structure Finds (P : Switches → Prop) (m : Meaning α) (Q : α → Switches → Prop) : Prop where
  keepsNotes : ∀ s a s', m.run s = some (a, s') → s'.matchesInvalid = false →
    s.matchesInvalid = false
  finds : ∀ s a s', P s.switches → m.run s = some (a, s') → s'.matchesInvalid = false →
    Q a s'.switches

theorem Finds.bind {m : Meaning α} {f : α → Meaning β} {Q : α → Switches → Prop}
    {R : β → Switches → Prop} (hm : Finds P m Q) (hf : ∀ a, Finds (Q a) (f a) R) :
    Finds P (m >>= f) R where
  keepsNotes s b s' hrun hnone := by
    obtain ⟨⟨a, t⟩, ha, hb⟩ := Option.bind_eq_some_iff.mp hrun
    exact hm.keepsNotes s a t ha ((hf a).keepsNotes t b s' hb hnone)
  finds s b s' hs hrun hnone := by
    obtain ⟨⟨a, t⟩, ha, hb⟩ := Option.bind_eq_some_iff.mp hrun
    have ht := (hf a).keepsNotes t b s' hb hnone
    exact (hf a).finds t b s' (hm.finds s a t hs ha ht) hb hnone

theorem Finds.pure {a : α} {Q : α → Switches → Prop} (h : ∀ s, P s → Q a s) :
    Finds P (Pure.pure a) Q where
  keepsNotes s b s' hrun hnone := by
    obtain ⟨rfl, rfl⟩ := Prod.mk.inj (Option.some.inj hrun)
    exact hnone
  finds s b s' hs hrun _ := by
    obtain ⟨rfl, rfl⟩ := Prod.mk.inj (Option.some.inj hrun)
    exact h _ hs

theorem Finds.failure {Q : α → Switches → Prop} : Finds P (failure : Meaning α) Q where
  keepsNotes _ _ _ hrun := nomatch (hrun : none = some _)
  finds _ _ _ _ hrun := nomatch (hrun : none = some _)

theorem Finds.weaken {m : Meaning α} {Q R : α → Switches → Prop} (h : Finds P m Q)
    (hqr : ∀ a s, Q a s → R a s) : Finds P m R :=
  ⟨h.keepsNotes, fun s a s' hs hrun hnone => hqr a _ (h.finds s a s' hs hrun hnone)⟩

theorem Finds.strengthen {m : Meaning α} {P' : Switches → Prop} {Q : α → Switches → Prop}
    (h : Finds P m Q) (hp : ∀ s, P' s → P s) : Finds P' m Q :=
  ⟨h.keepsNotes, fun s a s' hs hrun hnone => h.finds s a s' (hp _ hs) hrun hnone⟩

theorem finds_switches : Finds P switches fun t s => t = s ∧ P s where
  keepsNotes s b s' hrun hnone := by
    obtain ⟨rfl, rfl⟩ := Prod.mk.inj (Option.some.inj hrun)
    exact hnone
  finds s b s' hs hrun _ := by
    obtain ⟨rfl, rfl⟩ := Prod.mk.inj (Option.some.inj hrun)
    exact ⟨rfl, hs⟩

theorem Finds.always {m : Meaning α} {Q : α → Switches → Prop} (h : Finds (fun _ => True) m Q) :
    Finds P m Q := h.strengthen fun _ _ => trivial

/-- A fact that the switches have no part in is kept. -/
theorem Finds.frame {m : Meaning α} {Q : α → Switches → Prop} (h : Finds (fun _ => True) m Q)
    (fact : Prop) : Finds (fun _ => fact) m fun a s => fact ∧ Q a s :=
  ⟨h.keepsNotes, fun s a s' hs hrun hnone => ⟨hs, h.finds s a s' trivial hrun hnone⟩⟩

theorem finds_setSwitches (t : Switches) :
    Finds (fun _ => True) (setSwitches t) fun _ s => s = t where
  keepsNotes s b s' hrun hnone := by
    obtain ⟨rfl, rfl⟩ := Prod.mk.inj (Option.some.inj hrun)
    exact hnone
  finds s b s' hs hrun _ := by
    obtain ⟨rfl, rfl⟩ := Prod.mk.inj (Option.some.inj hrun)
    rfl

theorem finds_noteInvalid (condition : Bool) :
    Finds P (noteInvalid condition) fun _ s => P s ∧ condition = false := by
  cases condition with
  | false => exact .pure fun s hs => ⟨hs, rfl⟩
  | true =>
    have hnoted : ∀ s b s', (noteInvalid true).run s = some (b, s') → s'.matchesInvalid = true := by
      intro s b s' hrun
      obtain ⟨-, rfl⟩ := Prod.mk.inj (Option.some.inj hrun)
      rfl
    constructor
    · intro s b s' hrun hnone
      rw [hnoted s b s' hrun] at hnone
      exact absurd hnone (by simp)
    · intro s b s' _ hrun hnone
      rw [hnoted s b s' hrun] at hnone
      exact absurd hnone (by simp)

/-! ### Classes -/

/-- A set that was found with Unicode on, or that holds ASCII alone. -/
def IsNoted (set : RangeSet) (s : Switches) : Prop := s.unicode = true ∨ set.isAscii = true

theorem isNoted_of_note {set : RangeSet} {s : Switches}
    (h : (!s.unicode && !set.isAscii) = false) : IsNoted set s := by
  cases hu : s.unicode with
  | true => exact .inl hu
  | false => exact .inr (by simpa [hu] using h)

theorem finds_foldAndNegate (negated : Bool) (set : RangeSet) :
    Finds P (foldAndNegate negated set) fun r s => P s ∧ IsNoted r s := by
  refine finds_switches.bind fun t => (finds_noteInvalid _).bind fun _ => .pure ?_
  rintro s ⟨⟨rfl, hs⟩, hnote⟩
  exact ⟨hs, isNoted_of_note hnote⟩

theorem finds_shortSet (kind : ShortClass) (negated : Bool) :
    Finds P (shortSet kind negated) fun r s => P s ∧ IsNoted r s := by
  refine finds_switches.bind fun t => (finds_noteInvalid _).bind fun _ => .pure ?_
  rintro s ⟨⟨rfl, hs⟩, hnote⟩
  exact ⟨hs, isNoted_of_note hnote⟩

theorem finds_propertySet (query : PropertyQuery) (negated : Bool) :
    Finds P (propertySet query negated) fun r s => P s ∧ IsNoted r s := by
  unfold propertySet
  refine finds_switches.bind fun t => Finds.strengthen ?_ fun _ hs => hs.2
  dsimp only
  split
  · exact (Finds.failure (Q := fun _ s => P s)).bind fun _ => by
      split
      · exact finds_foldAndNegate negated _
      · exact .failure
  · split
    · exact finds_foldAndNegate negated _
    · exact .failure

theorem finds_classMember (l : Literal) : Finds P (classMember l) fun _ s => P s := by
  unfold classMember
  refine finds_switches.bind fun t => ?_
  split
  · exact .pure fun s hs => hs.2
  · refine (finds_noteInvalid _).bind fun _ => ?_
    split
    · exact .pure fun s hs => hs.1.2
    · exact .failure

mutual

theorem finds_itemSet : ∀ i : ClassItem, Finds P (itemSet i) fun _ s => P s
  | .literal l => by
    unfold itemSet
    exact (finds_classMember l).bind fun _ => .pure fun _ hs => hs
  | .range first last => by
    unfold itemSet
    exact (finds_classMember first).bind fun _ => (finds_classMember last).bind fun _ =>
      .pure fun _ hs => hs
  | .ascii kind negated => by
    unfold itemSet
    exact (finds_foldAndNegate negated _).weaken fun _ _ hs => hs.1
  | .short kind negated => by
    unfold itemSet
    exact (finds_shortSet kind negated).weaken fun _ _ hs => hs.1
  | .property query negated => by
    unfold itemSet
    exact (finds_propertySet query negated).weaken fun _ _ hs => hs.1
  | .nested negated body => by
    unfold itemSet
    exact (finds_bodySet body).bind fun _ => (finds_foldAndNegate negated _).weaken
      fun _ _ hs => hs.1

theorem finds_itemsSet : ∀ is : List ClassItem, Finds P (itemsSet is) fun _ s => P s
  | [] => by
    unfold itemsSet
    exact .pure fun _ hs => hs
  | i :: rest => by
    unfold itemsSet
    exact (finds_itemSet i).bind fun _ => (finds_itemsSet rest).bind fun _ => .pure fun _ hs => hs

theorem finds_bodySet : ∀ b : ClassBody, Finds P (bodySet b) fun _ s => P s
  | .items members => by
    unfold bodySet
    exact finds_itemsSet members
  | .operation op left right => by
    unfold bodySet
    exact (finds_bodySet left).bind fun _ => (finds_itemsSet right).bind fun _ =>
      finds_switches.bind fun _ => .pure fun _ hs => hs.2

end

/-! ### Nodes -/

theorem finds_classNode (set : RangeSet) :
    Finds (IsNoted set) (classNode set) fun n _ => n.IsText := by
  refine finds_switches.bind fun t => .pure ?_
  rintro s ⟨rfl, hs⟩
  split
  · exact Node.isText_ofCharClass set
  · next hu => exact Node.isText_ofByteClass (hs.resolve_left hu)

theorem isAscii_foldAscii {n : Nat} (h : n < 0x80) :
    (foldAscii (RangeSet.single n)).isAscii = true := by
  have hall : ∀ n : Fin 0x80, (foldAscii (RangeSet.single n.val)).isAscii = true := by decide
  exact hall ⟨n, h⟩

theorem toNat_lt_of_isAlpha {c : Char} (h : c.isAlpha = true) : c.toNat < 0x80 := by
  have hletter : (decide (65 ≤ c.val ∧ c.val ≤ 90) ||
      (decide (97 ≤ c.val) && decide (c.val ≤ 122))) = true := h
  simp only [Bool.or_eq_true, Bool.and_eq_true, decide_eq_true_eq, UInt32.le_iff_toNat_le,
    UInt32.reduceToNat] at hletter
  have hval : c.toNat = c.val.toNat := rfl
  omega

theorem finds_literalNode (l : Literal) : Finds P (literalNode l) fun n _ => n.IsText := by
  unfold literalNode
  refine finds_switches.bind fun t => ?_
  dsimp only
  split
  · refine (finds_noteInvalid true).bind fun _ => .pure ?_
    rintro s ⟨-, hnote⟩
    exact absurd hnote (by simp)
  · split
    · split
      · exact .pure fun _ _ => Node.isText_ofCharClass _
      · split
        · next halpha =>
          exact .pure fun _ _ =>
            Node.isText_ofByteClass (isAscii_foldAscii (toNat_lt_of_isAlpha halpha))
        · exact .pure fun _ _ => ⟨_, rfl⟩
    · exact .pure fun _ _ => ⟨_, rfl⟩

theorem finds_dotNode : Finds P dotNode fun n _ => n.IsText := by
  refine finds_switches.bind fun t => (finds_noteInvalid _).bind fun _ =>
    (finds_classNode _).strengthen ?_
  rintro s ⟨⟨rfl, -⟩, hnote⟩
  exact .inl (by simpa using hnote)

theorem finds_assertionNode (a : Assertion) : Finds P (assertionNode a) fun n _ => n.IsText :=
  finds_switches.bind fun _ => .pure fun _ _ => trivial

mutual

theorem finds_node : ∀ e : Expression, Finds (fun _ => True) (node e) fun n _ => n.IsText
  | .empty => by
    unfold node
    exact .pure fun _ _ => trivial
  | .flags change => by
    unfold node
    exact finds_switches.bind fun _ => (finds_setSwitches _).always.bind fun _ =>
      .pure fun _ _ => trivial
  | .literal l => by
    unfold node
    exact finds_literalNode l
  | .dot => by
    unfold node
    exact finds_dotNode
  | .assertion a => by
    unfold node
    exact finds_assertionNode a
  | .short kind negated => by
    unfold node
    exact (finds_shortSet kind negated).bind fun _ =>
      (finds_classNode _).strengthen fun _ hs => hs.2
  | .property query negated => by
    unfold node
    exact (finds_propertySet query negated).bind fun _ =>
      (finds_classNode _).strengthen fun _ hs => hs.2
  | .bracketed negated body => by
    unfold node
    exact (finds_bodySet body).bind fun _ => (finds_foldAndNegate negated _).bind fun _ =>
      (finds_classNode _).strengthen fun _ hs => hs.2
  | .repetition body least most greedy => by
    unfold node
    exact (finds_node body).bind fun _ => finds_switches.bind fun _ =>
      .pure fun _ hs => Node.isText_ofRepetition hs.2 least most _
  | .capture index body => by
    unfold node
    exact finds_switches.bind fun outer => (finds_node body).always.bind fun n =>
      ((finds_setSwitches outer).frame n.IsText).bind fun _ => .pure fun _ hn => hn.1
  | .group change body => by
    unfold node
    exact finds_switches.bind fun outer => (finds_setSwitches _).always.bind fun _ =>
      (finds_node body).always.bind fun n =>
        ((finds_setSwitches outer).frame n.IsText).bind fun _ => .pure fun _ hn => hn.1
  | .alternation branches => by
    unfold node
    exact (finds_nodes branches).bind fun _ => .pure fun _ hs => Node.isText_ofBranchesFrom _ hs
  | .concatenation parts => by
    unfold node
    exact (finds_nodes parts).bind fun _ => .pure fun _ hs => Node.isText_ofParts hs

theorem finds_nodes :
    ∀ es : List Expression, Finds (fun _ => True) (nodes es) fun ns _ => ∀ n ∈ ns, n.IsText
  | [] => by
    unfold nodes
    exact .pure fun _ _ => by simp
  | e :: rest => by
    unfold nodes
    refine (finds_node e).bind fun n =>
      ((finds_nodes rest).frame n.IsText).bind fun ns => .pure ?_
    rintro s ⟨hn, hns⟩ m hm
    rcases List.mem_cons.mp hm with rfl | hm
    · exact hn
    · exact hns m hm

end

end Meaning

/-- An expression that may match nothing but text has a node for text. -/
theorem Node.isText_ofExpression {e : Expression} {n : Node}
    (h : Node.ofExpression? e = some (n, false)) : n.IsText := by
  obtain ⟨⟨m, stop⟩, hrun, hsame⟩ := Option.bind_eq_some_iff.mp h
  obtain ⟨rfl, hnone⟩ := Prod.mk.inj (Option.some.inj hsame)
  exact (Meaning.finds_node e).finds _ m stop trivial hrun hnone

end Regex

end PxeLaunch

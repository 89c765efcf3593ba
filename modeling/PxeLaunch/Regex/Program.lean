import PxeLaunch.Regex.Node

/-!
Programs for matching. A node becomes a list of instructions that is entered at its first one and
left past its last one; where a choice is offered, the preferred branch is named first.
-/

set_option autoImplicit false

namespace PxeLaunch.Regex

open PxeLaunch.Unicode (RangeSet)

/-- One step of a matching program. Only the first two read input. -/
inductive Instruction where
  | byte (set : RangeSet)
  | char (set : RangeSet)
  | look (l : Look)
  | save (slot : Nat)
  | split (first second : Nat)
  | jump (target : Nat)
  | accept
  deriving Repr, DecidableEq

namespace Node

mutual

/-- The number of instructions of a node. -/
def size : Node → Nat
  | .empty => 0
  | .bytes text => text.length
  | .byteClass _ => 1
  | .charClass _ => 1
  | .look _ => 1
  | .repetition body least most _ =>
    match most with
    | some most => least * body.size + (most - least) * (body.size + 1)
    | none => if least = 0 then body.size + 2 else least * body.size + 1
  | .capture _ body => body.size + 2
  | .alternation branches => sizeOfBranches branches
  | .concatenation parts => sizeOfParts parts

/-- Every branch but the last is entered by a choice and left by a jump. -/
def sizeOfBranches : List Node → Nat
  | [] => 0
  | [n] => n.size
  | n :: rest => n.size + 2 + sizeOfBranches rest

def sizeOfParts : List Node → Nat
  | [] => 0
  | n :: rest => n.size + sizeOfParts rest

end

/-- A choice between going on and leaving, with the preferred one first. -/
def choice (greedy : Bool) (inside outside : Nat) : Instruction :=
  if greedy then .split inside outside else .split outside inside

/-- Copies of a code of the given size one after another, the first one at `start`. -/
def copies (code : Nat → List Instruction) (size start count : Nat) : List Instruction :=
  (List.range count).flatMap fun k => code (start + k * size)

mutual

/-- The instructions of a node that starts at `start`. -/
def code (start : Nat) : Node → List Instruction
  | .empty => []
  | .bytes text => text.map fun b => .byte (RangeSet.single b.toNat)
  | .byteClass set => [.byte set]
  | .charClass set => [.char set]
  | .look l => [.look l]
  | .repetition body least most greedy =>
    let size := body.size
    match most with
    | some most =>
      let optional := start + least * size
      let past := optional + (most - least) * (size + 1)
      copies (fun at_ => code at_ body) size start least ++
        copies (fun at_ => choice greedy (at_ + 1) past :: code (at_ + 1) body) (size + 1)
          optional (most - least)
    | none =>
      if least = 0 then
        let past := start + size + 2
        choice greedy (start + 1) past ::
          (code (start + 1) body ++ [choice greedy (start + 1) past])
      else
        let last := start + (least - 1) * size
        copies (fun at_ => code at_ body) size start least ++
          [choice greedy last (last + size + 1)]
  | .capture index body =>
    .save (2 * index) :: (code (start + 1) body ++ [.save (2 * index + 1)])
  | .alternation branches => codeOfBranches start branches
  | .concatenation parts => codeOfParts start parts

/-- The instructions of branches, the first one preferred. -/
def codeOfBranches (start : Nat) : List Node → List Instruction
  | [] => []
  | [n] => code start n
  | n :: rest =>
    let next := start + n.size + 2
    .split (start + 1) next ::
      (code (start + 1) n ++ .jump (next + sizeOfBranches rest) :: codeOfBranches next rest)

def codeOfParts (start : Nat) : List Node → List Instruction
  | [] => []
  | n :: rest => code start n ++ codeOfParts (start + n.size) rest

end

end Node

/-- A program, and the numbers of the groups that have names. -/
structure Program where
  code : Array Instruction
  names : List (String × Nat)

/-- The program that finds a node and notes where the whole match starts and ends. -/
def Program.ofNode (n : Node) (names : List (String × Nat)) : Program where
  code := (.save 0 :: (n.code 1 ++ [.save 1, .accept])).toArray
  names := names

end PxeLaunch.Regex

import Lexicon.Regex.Tree

/-! How deep the parts of a tree nest, as a number: a tree may stand wherever this many levels are left. -/
namespace Lexicon.Regex

mutual
/-- How many brackets, unions and operations stand around the innermost member, at most. -/
def ClassTree.nesting : ClassTree → Nat
  | .bracket _ _ body => body.nesting + 1
  | .union _ items => ClassTree.nestingAll items + 1
  | .operation _ _ left right => max left.nesting right.nesting + 1
  | _ => 0

def ClassTree.nestingAll : List ClassTree → Nat
  | [] => 0
  | item :: items => max item.nesting (ClassTree.nestingAll items)
end

mutual
/-- How many brackets, groups, repetitions and sequences stand around the innermost part, at most. -/
def Tree.nesting : Tree → Nat
  | .bracket _ _ body => body.nesting + 1
  | .repetition _ _ _ body | .group _ _ body => body.nesting + 1
  | .alternation _ trees | .concat _ trees => Tree.nestingAll trees + 1
  | _ => 0

def Tree.nestingAll : List Tree → Nat
  | [] => 0
  | tree :: trees => max tree.nesting (Tree.nestingAll trees)
end

/-- So many levels fit behind a depth. Where there are none, the depth does not matter: the check looks at parts that
hold others, and at nothing else. -/
def HasRoom (depth levels : Nat) : Prop := levels = 0 ∨ depth + levels ≤ nestingLimit

theorem room_succ {depth levels : Nat} :
    HasRoom depth (levels + 1) ↔ ¬depth + 1 > nestingLimit ∧ HasRoom (depth + 1) levels := by
  unfold HasRoom
  omega

theorem room_max {depth first second : Nat} :
    HasRoom depth (max first second) ↔ HasRoom depth first ∧ HasRoom depth second := by
  unfold HasRoom
  omega

/-- What fits behind a depth fits further out as well. -/
theorem HasRoom.outward {outer inner levels : Nat} (room : HasRoom inner levels) (further : outer ≤ inner) :
    HasRoom outer levels := by
  unfold HasRoom at room ⊢
  omega

theorem tooDeep_level {depth levels : Nat} {span : Span} {inner : Option Span}
    (inside : inner = none ↔ HasRoom (depth + 1) levels) :
    (if depth + 1 > nestingLimit then some span else inner) = none ↔ HasRoom depth (levels + 1) := by
  rw [room_succ, ← inside]
  split
  · next deep => simp [deep]
  · next shallow => simp [shallow]

mutual
theorem ClassTree.tooDeep_none (depth : Nat) : (t : ClassTree) → (t.tooDeep depth = none ↔ HasRoom depth t.nesting)
  | .empty _ | .literal _ | .range _ _ _ | .posix _ _ _ | .property _ _ _ | .perl _ _ _ =>
    iff_of_true rfl (.inl rfl)
  | .bracket _ _ body => tooDeep_level (ClassTree.tooDeep_none (depth + 1) body)
  | .union _ items => tooDeep_level (ClassTree.anyTooDeep_none (depth + 1) items)
  | .operation _ _ left right => by
    refine tooDeep_level ?_
    rw [Option.or_eq_none_iff, room_max, ClassTree.tooDeep_none (depth + 1) left,
      ClassTree.tooDeep_none (depth + 1) right]

theorem ClassTree.anyTooDeep_none (depth : Nat) : (items : List ClassTree) →
    (ClassTree.anyTooDeep depth items = none ↔ HasRoom depth (ClassTree.nestingAll items))
  | [] => iff_of_true rfl (.inl rfl)
  | item :: items => by
    rw [ClassTree.anyTooDeep, ClassTree.nestingAll, Option.or_eq_none_iff, room_max,
      ClassTree.tooDeep_none depth item, ClassTree.anyTooDeep_none depth items]
end

mutual
/-- No part of a tree is nested too deeply exactly if its levels fit. -/
theorem Tree.tooDeep_none (depth : Nat) : (t : Tree) → (t.tooDeep depth = none ↔ HasRoom depth t.nesting)
  | .empty _ | .flags _ _ | .literal _ | .dot _ | .anchor _ _ | .property _ _ _ | .perl _ _ _ =>
    iff_of_true rfl (.inl rfl)
  | .bracket _ _ body => tooDeep_level (ClassTree.tooDeep_none (depth + 1) body)
  | .repetition _ _ _ body | .group _ _ body => tooDeep_level (Tree.tooDeep_none (depth + 1) body)
  | .alternation _ trees | .concat _ trees => tooDeep_level (Tree.anyTooDeep_none (depth + 1) trees)

theorem Tree.anyTooDeep_none (depth : Nat) : (trees : List Tree) →
    (Tree.anyTooDeep depth trees = none ↔ HasRoom depth (Tree.nestingAll trees))
  | [] => iff_of_true rfl (.inl rfl)
  | tree :: trees => by
    rw [Tree.anyTooDeep, Tree.nestingAll, Option.or_eq_none_iff, room_max, Tree.tooDeep_none depth tree,
      Tree.anyTooDeep_none depth trees]
end

end Lexicon.Regex

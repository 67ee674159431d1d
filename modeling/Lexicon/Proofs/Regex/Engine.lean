import Lexicon.Proofs.Regex.Wrapping

/-! What is taken for granted of the engine's measure of programs where sizes matter: part of a program is no larger
than the whole. -/
namespace Lexicon.Regex

/-- The measure of an expression does not depend on the numbers of its groups, and what stands in a group of its own
as a branch behind the start of the text measures no more alone, with or without the start of the text. -/
class Engine.Lawful [Engine] : Prop where
  weight_renumber (shift : Nat) (e : Expr) : Engine.weight (e.renumber (· + shift)) = Engine.weight e
  weight_branch {branches : List (Nat × Expr)} {branch : Nat × Expr} (member : branch ∈ branches) :
    Engine.weight branch.2 ≤ Engine.weight (Expr.wrapped branches).behindStart
  weight_behindStart {branches : List (Nat × Expr)} {branch : Nat × Expr} (member : branch ∈ branches) :
    Engine.weight branch.2.behindStart ≤ Engine.weight (Expr.wrapped branches).behindStart

theorem Expr.behindStart_renumber (number : Nat → Nat) (e : Expr) :
    (e.renumber number).behindStart = e.behindStart.renumber number :=
  seqAll_renumber [look .startText, e]

variable [Engine] [Engine.Lawful]

/-- A pattern measures no more alone than among others. -/
theorem Piece.weight_le {pieces : List Piece} {piece : Piece} (member : piece ∈ pieces) :
    Engine.weight piece.expr ≤ Engine.weight (Expr.wrapped (Piece.branches 0 pieces)).behindStart ∧
      Engine.weight piece.expr.behindStart ≤ Engine.weight (Expr.wrapped (Piece.branches 0 pieces)).behindStart := by
  obtain ⟨index, found⟩ := List.getElem?_of_mem member
  have branch := Piece.branches_getElem? 0 pieces index
  rw [found, Option.map_some] at branch
  have alone := Engine.Lawful.weight_branch (List.mem_of_getElem? branch)
  have ahead := Engine.Lawful.weight_behindStart (List.mem_of_getElem? branch)
  rw [Engine.Lawful.weight_renumber] at alone
  rw [Expr.behindStart_renumber, Engine.Lawful.weight_renumber] at ahead
  exact ⟨alone, ahead⟩

end Lexicon.Regex

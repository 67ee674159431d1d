import Lexicon.Proofs.Regex.CharSet
import Lexicon.Proofs.Regex.Engine
import Lexicon.Regex.Standard

/-! The sets that the standard engine knows by name hold what they should, and its estimate of sizes keeps to the
laws. -/
namespace Lexicon.Regex

/-- A set that the standard engine gives for a name holds exactly the characters that have the property. -/
theorem Engine.standard_property {query : PropertyQuery} {set : CharSet} (found : Engine.property query = .ok set) :
    ∃ property, query.property = .ok property ∧ ∀ c, set.contains c = property.contains c := by
  cases known : query.property with
  | error e => simp [Engine.property, known, Except.map] at found
  | ok property =>
    simp only [Engine.property, known, Except.map, Except.ok.injEq] at found
    exact ⟨property, rfl, fun c => found ▸ CharSet.contains_ofProperty property c⟩

namespace Expr

theorem chain_weight (es : List Expr) : (chain es).weight = (es.map weight).sum := by
  induction es with
  | nil => rfl
  | cons e es ih =>
    cases es with
    | nil => simp [chain]
    | cons next es =>
      change (seq e (chain (next :: es))).weight = _
      simp only [weight, ih, List.map_cons, List.sum_cons]

theorem parts_weight (e : Expr) : (e.parts.map weight).sum = e.weight := by
  induction e with
  | seq a b iha ihb => rw [parts, List.map_append, List.sum_append, iha, ihb, weight]
  | empty => rfl
  | _ => simp [parts]

theorem behindStart_weight (e : Expr) : e.behindStart.weight = 32 + e.weight := by
  have flat : [look .startText, e].flatMap parts = look .startText :: e.parts := by simp [parts]
  rw [behindStart, seqAll, flat, chain_weight, List.map_cons, List.sum_cons, parts_weight, weight]

@[simp] theorem weight_renumber (number : Nat → Nat) (e : Expr) : (e.renumber number).weight = e.weight := by
  have branch (e : Expr) : (e.renumber number).branchWeight = e.branchWeight := by cases e <;> rfl
  induction e with
  | empty | chars | look => rfl
  | seq a b iha ihb => rw [renumber, weight, iha, ihb, weight]
  | alt a b iha ihb => rw [renumber, weight, iha, ihb, branch, weight]
  | capture index body ih => rw [renumber, weight, ih, weight]
  | loop least most greedy body ih => cases most <;> simp only [renumber, weight, ih]

theorem wrapped_weight {branches : List (Nat × Expr)} {branch : Nat × Expr} (member : branch ∈ branches) :
    branch.2.weight ≤ (wrapped branches).weight := by
  induction branches with
  | nil => simp at member
  | cons first rest ih =>
    cases rest with
    | nil =>
      rw [List.mem_singleton] at member
      subst member
      simp only [wrapped, List.map_cons, List.map_nil, choice, weight]
      omega
    | cons next rest =>
      have split : (wrapped (first :: next :: rest)).weight = (capture first.1 first.2).weight +
          (wrapped (next :: rest)).weight + (wrapped (next :: rest)).branchWeight := rfl
      rcases List.mem_cons.mp member with rfl | later
      · rw [split, weight]
        omega
      · have below := ih later
        omega

end Expr

instance : Engine.Lawful where
  weight_renumber shift e := e.weight_renumber _
  weight_branch {branches branch} member := by
    change branch.2.weight ≤ (Expr.wrapped branches).behindStart.weight
    rw [Expr.behindStart_weight]
    exact Nat.le_add_left_of_le (Expr.wrapped_weight member)
  weight_behindStart {branches branch} member := by
    change branch.2.behindStart.weight ≤ (Expr.wrapped branches).behindStart.weight
    rw [Expr.behindStart_weight, Expr.behindStart_weight]
    exact Nat.add_le_add_left (Expr.wrapped_weight member) 32

end Lexicon.Regex

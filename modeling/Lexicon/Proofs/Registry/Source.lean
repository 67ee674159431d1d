import Lexicon.Proofs.Regex.Engine
import Lexicon.Registry

/-! The sources that definitions are compiled from: what stands where in them, and what they mean. -/
namespace Lexicon
open Regex (Piece Expr Tree read ofExpr)

/-- A computation that is run, and gives a value that passes a test, has given a value. -/
theorem ok_of_any {ε α : Type} {result : Except ε α} {test : α → Bool} (passes : result.toOption.any test = true) :
    ∃ value, result = .ok value ∧ test value = true := by
  cases result with
  | error e => simp [Except.toOption] at passes
  | ok value => exact ⟨value, rfl, passes⟩

section
variable [Regex.Engine] {p : Pattern} {piece : Piece}

theorem Pattern.groupSource_toList (text : piece.text = p.source.toList) : p.groupSource.toList = piece.closed := by
  have found : read false p.source.toList = .ok piece.reading := text ▸ piece.read
  unfold Pattern.groupSource Pattern.endsInOpenComment
  simp only [found, Piece.closed, Regex.closedText, text]
  cases piece.reading.openComment <;> simp

theorem Lookahead.sourceOf_toList (text : piece.text = p.source.toList) : (Lookahead.sourceOf p).toList =
    '\\' :: 'A' :: '(' :: '?' :: ':' :: (piece.closed ++ [')']) := by
  rw [Lookahead.sourceOf, String.toList_append, String.toList_append, Pattern.groupSource_toList text]
  rfl

/-- A pattern that leaves room for the group around it has a look-ahead, unless that is too large. -/
theorem Lookahead.ofPattern_eq (text : piece.text = p.source.toList) (shallow : piece.reading.tree.tooDeep 2 = none) :
    Lookahead.ofPattern p = if Regex.sizeLimit < Regex.Engine.weight piece.expr.behindStart then
        .error ⟨Lookahead.sourceOf p, .tooLarge Regex.sizeLimit⟩
      else .ok ⟨ofExpr (Lookahead.sourceOf p) piece.expr.behindStart⟩ := by
  obtain ⟨reading, whole, outer, body, found, alike, tree⟩ := Regex.read_anchored piece shallow
  rw [← Lookahead.sourceOf_toList text] at found
  have lowered : reading.tree.lower .initial = .ok (piece.expr.behindStart, .initial) := by
    rw [tree]
    exact piece.lower_anchored alike
  rw [Lookahead.ofPattern, Regex.compile_eq found lowered]
  split <;> rfl

/-- The look-ahead of a pattern tells how far the pattern alone matches. -/
theorem Lookahead.matchLength_alone (text : piece.text = p.source.toList)
    (shallow : piece.reading.tree.tooDeep 2 = none) {l : Lookahead} (made : Lookahead.ofPattern p = .ok l)
    (rest : List Char) : l.matchLength rest =
      (Regex.matchHere piece.expr.program none rest).map fun t => utf8Length (rest.take t.taken) := by
  rw [Lookahead.ofPattern_eq text shallow] at made
  split at made
  · simp at made
  · cases made
    rw [Lookahead.matchLength, Regex.find_behindStart piece.normal, Option.map_map]
    simp only [Function.comp_def, Nat.zero_add]

end

namespace Registry
variable {σ κ ν : Type} {definitions : List (Definition σ κ ν)}

/-- What stands in the source before the parenthesis around a definition. -/
def textBefore (definitions : List (Definition σ κ ν)) (index : Nat) : String :=
  "\\A(?:" ++ String.join ((definitions.take index).map fun d => "(" ++ d.pattern.groupSource ++ ")|")

/-- The text before a definition's parenthesis is what the source starts with; behind it stands the definition. -/
theorem sourceOf_split {index : Nat} {d : Definition σ κ ν} (found : definitions[index]? = some d) :
    ∃ after, sourceOf definitions =
      textBefore definitions index ++ ("(" ++ d.pattern.groupSource ++ ")") ++ after := by
  have inner : ∃ after, "|".intercalate (definitions.map fun d => "(" ++ d.pattern.groupSource ++ ")") =
      String.join ((definitions.take index).map fun d => "(" ++ d.pattern.groupSource ++ ")|") ++
        ("(" ++ d.pattern.groupSource ++ ")") ++ after := by
    induction definitions generalizing index with
    | nil => simp at found
    | cons first rest ih =>
      cases rest with
      | nil =>
        cases index with
        | zero =>
          cases found
          exact ⟨"", by simp [String.join]⟩
        | succ index => simp at found
      | cons next rest =>
        rw [List.map_cons, List.map_cons, String.intercalate_cons_cons]
        cases index with
        | zero =>
          cases found
          refine ⟨"|" ++ "|".intercalate ((next :: rest).map fun d => "(" ++ d.pattern.groupSource ++ ")"), ?_⟩
          simp only [List.take_zero, List.map_nil, String.join_nil, String.empty_append, String.append_assoc,
            List.map_cons]
        | succ index =>
          obtain ⟨after, split⟩ := ih found
          rw [List.map_cons] at split
          refine ⟨after, ?_⟩
          rw [split, List.take_succ_cons, List.map_cons, String.join_cons]
          simp [String.append_assoc]
  obtain ⟨after, split⟩ := inner
  refine ⟨after ++ ")", ?_⟩
  rw [sourceOf, split, textBefore]
  simp only [String.append_assoc]

/-- The number of the group around a definition: the one that opens at the definition's parenthesis. -/
def wrapper? (definitions : List (Definition σ κ ν)) (index : Nat) : Option Nat :=
  match read false (sourceOf definitions).toList with
  | .error _ => none
  | .ok reading => reading.tree.openings.lookup (textBefore definitions index).length

section
variable [Regex.Engine] {pieces : List Piece}

/-- The patterns of the definitions, as they are read alone. -/
def Sources (definitions : List (Definition σ κ ν)) (pieces : List Piece) : Prop :=
  pieces.map (·.text) = definitions.map fun d => d.pattern.source.toList

theorem exists_sources (alone : ∀ d ∈ definitions, ∃ piece : Piece, piece.text = d.pattern.source.toList) :
    ∃ pieces, Sources definitions pieces := by
  induction definitions with
  | nil => exact ⟨[], rfl⟩
  | cons d rest ih =>
    obtain ⟨piece, text⟩ := alone d List.mem_cons_self
    obtain ⟨pieces, texts⟩ := ih fun other member => alone other (List.mem_cons_of_mem d member)
    exact ⟨piece :: pieces, by rw [Sources, List.map_cons, List.map_cons, text, texts]⟩

theorem Sources.length (sources : Sources definitions pieces) : pieces.length = definitions.length := by
  simpa using congrArg List.length sources

theorem Sources.getElem? (sources : Sources definitions pieces) {index : Nat} {d : Definition σ κ ν}
    (found : definitions[index]? = some d) :
    ∃ piece, pieces[index]? = some piece ∧ piece.text = d.pattern.source.toList := by
  have same := congrArg (·[index]?) sources
  simp only [List.getElem?_map, found, Option.map_some, Option.map_eq_some_iff] at same
  exact same

/-- What the text of a pattern determines is the same for the definitions and for their patterns. -/
theorem Sources.map_eq {α : Type} (sources : Sources definitions pieces) {ofDefinition : Definition σ κ ν → α}
    {ofPiece : Piece → α} (same : ∀ d ∈ definitions, ∀ piece : Piece, piece.text = d.pattern.source.toList →
      ofPiece piece = ofDefinition d) : pieces.map ofPiece = definitions.map ofDefinition := by
  induction definitions generalizing pieces with
  | nil => rw [List.eq_nil_of_length_eq_zero sources.length, List.map_nil, List.map_nil]
  | cons d definitions ih =>
    cases pieces with
    | nil => simp [Sources] at sources
    | cons piece pieces =>
      rw [Sources, List.map_cons, List.map_cons, List.cons.injEq] at sources
      rw [List.map_cons, List.map_cons, same d List.mem_cons_self piece sources.1,
        ih sources.2 fun other member => same other (List.mem_cons_of_mem d member)]

/-- A sum over the definitions before an index is the same sum over their patterns. -/
theorem Sources.sum_take (sources : Sources definitions pieces) {ofDefinition : Definition σ κ ν → Nat}
    {ofPiece : Piece → Nat} (same : ∀ d ∈ definitions, ∀ piece : Piece, piece.text = d.pattern.source.toList →
      ofPiece piece = ofDefinition d) (index : Nat) :
    ((pieces.take index).map ofPiece).sum = ((definitions.take index).map ofDefinition).sum := by
  rw [List.map_take, List.map_take, sources.map_eq same]

theorem alternatives_toList (sources : Sources definitions pieces) :
    ("|".intercalate (definitions.map fun d => "(" ++ d.pattern.groupSource ++ ")")).toList =
      Piece.alternatives pieces := by
  induction definitions generalizing pieces with
  | nil =>
    rw [List.eq_nil_of_length_eq_zero sources.length]
    rfl
  | cons d definitions ih =>
    cases pieces with
    | nil => simp [Sources] at sources
    | cons piece pieces =>
      rw [Sources, List.map_cons, List.map_cons, List.cons.injEq] at sources
      have wrapped : ("(" ++ d.pattern.groupSource ++ ")").toList = piece.wrapped := by
        rw [String.toList_append, String.toList_append, Pattern.groupSource_toList sources.1]
        rfl
      have rest := ih sources.2
      cases definitions with
      | nil =>
        rw [List.eq_nil_of_length_eq_zero (Sources.length sources.2)]
        simp only [List.map_cons, List.map_nil, String.intercalate_singleton, Piece.alternatives]
        exact wrapped
      | cons next definitions =>
        cases pieces with
        | nil => simp at sources
        | cons piece' pieces =>
          rw [List.map_cons] at rest
          rw [List.map_cons, List.map_cons, String.intercalate_cons_cons, String.toList_append, String.toList_append,
            rest, wrapped]
          simp [Piece.alternatives]

theorem sourceOf_toList (sources : Sources definitions pieces) : (sourceOf definitions).toList =
    '\\' :: 'A' :: '(' :: '?' :: ':' :: (Piece.alternatives pieces ++ [')']) := by
  rw [sourceOf, String.toList_append, String.toList_append, alternatives_toList sources]
  rfl

theorem textBefore_length (sources : Sources definitions pieces) (index : Nat) : (textBefore definitions index).length =
    5 + ((pieces.take index).map fun piece => piece.wrapped.length + 1).sum := by
  have written : ∀ (before : List (Definition σ κ ν)) (parts : List Piece), Sources before parts →
      (String.join (before.map fun d => "(" ++ d.pattern.groupSource ++ ")|")).length =
        (parts.map fun piece => piece.wrapped.length + 1).sum := by
    intro before parts each
    induction before generalizing parts with
    | nil =>
      rw [List.eq_nil_of_length_eq_zero each.length]
      rfl
    | cons d before ih =>
      cases parts with
      | nil => simp [Sources] at each
      | cons piece parts =>
        rw [Sources, List.map_cons, List.map_cons, List.cons.injEq] at each
        have own : ("(" ++ d.pattern.groupSource ++ ")|").length = piece.wrapped.length + 1 := by
          rw [← String.length_toList, String.toList_append, String.toList_append, Pattern.groupSource_toList each.1]
          simp [Piece.wrapped]
        rw [List.map_cons, String.join_cons, String.length_append, own, ih parts each.2, List.map_cons, List.sum_cons]
  have taken : Sources (definitions.take index) (pieces.take index) := by
    rw [Sources, List.map_take, List.map_take, sources]
  rw [textBefore, String.length_append, written _ _ taken]
  rfl

/-- What a matcher is made of, if it is compiled from patterns that can be read alone. -/
structure Combines (definitions : List (Definition σ κ ν)) (pieces : List Piece) (matcher : Regex) : Prop where
  matcher : matcher = ofExpr (sourceOf definitions) (Expr.wrapped (Piece.branches 0 pieces)).behindStart
  wrapper : ∀ index < pieces.length, wrapper? definitions index = some (Piece.groupsBefore 0 pieces index + 1)
  shallow : ∀ piece ∈ pieces, piece.reading.tree.tooDeep 2 = none
  small : Regex.Engine.weight (Expr.wrapped (Piece.branches 0 pieces)).behindStart ≤ Regex.sizeLimit

theorem build_combines {r : Registry σ κ ν} (built : build definitions = .ok r)
    (sources : Sources definitions pieces) : Combines definitions pieces r.matcher := by
  obtain ⟨nonempty, compiled, -⟩ := build_ok built
  obtain ⟨reading, expr, flags, found, lowered, small, made⟩ := Regex.compile_ok compiled
  have text := sourceOf_toList sources
  cases pieces with
  | nil => exact absurd (List.eq_nil_of_length_eq_zero sources.length.symm) nonempty
  | cons piece pieces =>
    obtain ⟨trees, whole, outer, inner, wraps, tree⟩ := Regex.read_alternatives (text ▸ found)
    have meaning : reading.tree.lower .initial =
        .ok ((Expr.wrapped (Piece.branches 0 (piece :: pieces))).behindStart, .initial) := by
      rw [tree]
      exact Regex.lower_behindStart (wraps.ofBranches inner)
    rw [lowered, Except.ok.injEq, Prod.mk.injEq] at meaning
    obtain ⟨rfl, -⟩ := meaning
    refine ⟨made, fun index inside => ?_, fun other member => ?_, small⟩
    · have openings : reading.tree.openings = Tree.openingsAll trees := by
        rw [tree]
        simp [Tree.openings, Tree.openingsAll, Regex.GroupKind.index?, Regex.Tree.ofBranches_openings]
      rw [wrapper?, found]
      simp only [openings]
      rw [textBefore_length sources, wraps.wrapper inside]
    · obtain ⟨-, -, -, -, -, limited⟩ := Regex.read_ok found
      rw [tree] at limited
      exact wraps.shallow (Regex.Tree.ofBranches_shallow (Tree.tooDeep_anchored.mp limited)) member
end

end Registry
end Lexicon

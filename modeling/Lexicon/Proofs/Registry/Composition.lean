import Mathlib.Data.List.Nodup
import Lexicon.Proofs.Regex.Composition
import Lexicon.Proofs.Registry.Attribution

/-! Patterns that are literals or made from a source make a registry, unless two of them declare the same name or the
source is nested too deeply. Each of them stands in its group as it is read alone: none swallows, closes or extends the
group around it or a neighbour. -/
namespace Lexicon
open Regex (Piece Expr Tree Wraps Composes treeOf? nestingOf namesOf nestingLimit)

namespace Lookahead
variable {p : Pattern}

theorem ofPattern_error_iff [Regex.Engine] {e : PatternError} : ofPattern p = .error e ↔
    ∃ fault, Regex.compile (sourceOf p) = .error fault ∧ e = ⟨sourceOf p, fault⟩ := by
  unfold ofPattern PatternError.guard
  cases Regex.compile (sourceOf p) with
  | error fault => simp [Except.map, eq_comm]
  | ok re => simp [Except.map]

/-- Behind the start of the text a pattern is read as it is read alone. -/
def Enclosed (p : Pattern) : Prop :=
  ∃ whole outer own body, treeOf? p.source.toList = some own ∧ own.shape id = body.shape id ∧
    treeOf? (sourceOf p).toList =
      some (.concat whole [.anchor ⟨0, 2⟩ .startText, .group outer (.plain []) body])

theorem composes [Regex.Engine] (made : p.Made) :
    Composes (sourceOf p) ∧ Enclosed p ∧ nestingOf (sourceOf p) = nestingOf p.source + 2 := by
  obtain ⟨piece, text⟩ := made.piece
  obtain ⟨last, whole, outer, body, finishes, alike, contents⟩ := Regex.Reader.runs_anchored piece
  rw [← Lookahead.sourceOf_toList text] at finishes
  have own : treeOf? p.source.toList = some piece.reading.tree := text ▸ piece.treeOf?
  have tree := contents ▸ finishes.treeOf?
  refine ⟨finishes.composes (by simp [contents, Tree.nesting]) (contents ▸ piece.lower_anchored alike),
    ⟨whole, outer, _, body, own, alike, tree⟩, ?_⟩
  rw [nestingOf, nestingOf, tree, own]
  simp [Tree.nesting, Tree.nestingAll, Tree.nesting_like alike]

end Lookahead

namespace Registry
variable {σ κ ν : Type} {definitions : List (Definition σ κ ν)}

theorem build_error_iff [Regex.Engine] {e : BuildError} (nonempty : definitions ≠ []) : build definitions = .error e ↔
    ∃ fault, Regex.compile (sourceOf definitions) = .error fault ∧
      e = .invalidPattern ⟨sourceOf definitions, fault⟩ := by
  unfold build PatternError.guard
  rw [if_neg (by simpa using nonempty)]
  cases Regex.compile (sourceOf definitions) with
  | error fault => simp [eq_comm]
  | ok re => simp

/-- Two different definitions declare the same name. -/
def NameShared (definitions : List (Definition σ κ ν)) : Prop :=
  ∃ (i j : Nat) (d e : Definition σ κ ν) (name : String), i ≠ j ∧ definitions[i]? = some d ∧
    definitions[j]? = some e ∧ name ∈ namesOf d.pattern.source ∧ name ∈ namesOf e.pattern.source

theorem nameShared_iff (definitions : List (Definition σ κ ν)) : NameShared definitions ↔
    ¬(definitions.map fun d => namesOf d.pattern.source).Pairwise List.Disjoint := by
  rw [List.pairwise_map, List.pairwise_iff_getElem]
  constructor
  · rintro ⟨i, j, d, e, name, apart, first, second, own, other⟩ disjoint
    obtain ⟨within, rfl⟩ := List.getElem?_eq_some_iff.mp first
    obtain ⟨inside, rfl⟩ := List.getElem?_eq_some_iff.mp second
    -- Neither index is told to be the smaller one, but sharing a name is symmetric.
    rcases Nat.lt_or_gt_of_ne apart with before | behind
    · exact disjoint i j within inside before own other
    · exact disjoint j i inside within behind other own
  · intro shared
    simp only [List.Disjoint, not_forall] at shared
    obtain ⟨i, j, within, inside, before, name, own, other, -⟩ := shared
    exact ⟨i, j, _, _, name, Nat.ne_of_lt before, List.getElem?_eq_getElem within, List.getElem?_eq_getElem inside,
      own, other⟩

/-- The names of the patterns differ exactly if no two definitions share one: those of one pattern differ anyway. -/
theorem Sources.names_nodup [Regex.Engine] {pieces : List Piece} (sources : Sources definitions pieces) :
    (Piece.names pieces).Nodup ↔ ¬NameShared definitions := by
  have each : pieces.map (·.reading.tree.names) = definitions.map fun d => namesOf d.pattern.source := by
    apply sources.map_eq
    intro d _ piece text
    rw [namesOf, ← text, piece.treeOf?]
    rfl
  rw [nameShared_iff, not_not, ← each, Piece.names, List.flatMap_def, List.nodup_flatten]
  constructor
  · exact And.right
  · refine fun apart => ⟨fun names member => ?_, apart⟩
    obtain ⟨piece, -, rfl⟩ := List.mem_map.mp member
    exact Regex.read_names piece.read

/-- A definition as a branch of the combined source: in its group stands the tree that is read of it alone, with its
groups numbered behind the group around it. -/
def Fills (d : Definition σ κ ν) (branch : Tree) : Prop :=
  ∃ own span number body, treeOf? d.pattern.source.toList = some own ∧ own.shape (· + number) = body.shape id ∧
    branch = .group span (.capture number) body

theorem Sources.fills [Regex.Engine] {pieces : List Piece} {offset shift : Nat} {trees : List Tree}
    (sources : Sources definitions pieces) (wraps : Wraps offset shift pieces trees) :
    List.Forall₂ Fills definitions trees := by
  induction wraps generalizing definitions with
  | nil =>
    rw [List.eq_nil_of_length_eq_zero sources.length.symm]
    exact .nil
  | @cons _ _ piece body pieces trees alike _ _ ih =>
    cases definitions with
    | nil => simp [Sources] at sources
    | cons d definitions =>
      rw [Sources, List.map_cons, List.map_cons, List.cons.injEq] at sources
      exact .cons ⟨_, _, _, _, sources.1 ▸ piece.treeOf?, alike, rfl⟩ (ih sources.2)

/-- How deep the deepest definition nests. -/
def deepest (definitions : List (Definition σ κ ν)) : Nat :=
  (definitions.map fun d => nestingOf d.pattern.source).foldr max 0

/-- The combined source as it is read: the branches stand one after the other behind the start of the text, and each
holds its own definition. -/
def Combined (definitions : List (Definition σ κ ν)) : Prop :=
  ∃ whole outer inner branches, List.Forall₂ Fills definitions branches ∧ treeOf? (sourceOf definitions).toList =
    some (.concat whole [.anchor ⟨0, 2⟩ .startText, .group outer (.plain []) (.ofBranches inner branches)])

/-- The source of definitions is read as their combination, or a name is declared twice, and then that is the fault. -/
theorem composes [Regex.Engine] (nonempty : definitions ≠ []) (made : ∀ d ∈ definitions, d.pattern.Made) :
    (¬NameShared definitions ∧ Composes (sourceOf definitions) ∧ Combined definitions ∧
      nestingOf (sourceOf definitions) = deepest definitions + if definitions.length = 1 then 3 else 4) ∨
    (NameShared definitions ∧ ∃ d, d.fault = .groupNameDuplicate ∧
      Regex.compile (sourceOf definitions) = .error (.malformed (sourceOf definitions) d)) := by
  obtain ⟨pieces, sources⟩ := exists_sources fun d member => (made d member).piece
  have text := sourceOf_toList sources
  cases pieces with
  | nil => exact absurd (List.eq_nil_of_length_eq_zero sources.length.symm) nonempty
  | cons piece pieces =>
    rcases Regex.Reader.runs_alternatives piece pieces with
      ⟨last, trees, whole, outer, inner, finishes, wraps, distinct, contents⟩ | ⟨twice, failed⟩
    · rw [← text] at finishes
      have fills := sources.fills wraps
      have tree := contents ▸ finishes.treeOf?
      refine .inl ⟨sources.names_nodup.mp distinct, finishes.composes (by simp [contents, Tree.nesting])
        (contents ▸ Regex.lower_behindStart (wraps.ofBranches inner)), ⟨whole, outer, inner, trees, fills, tree⟩, ?_⟩
      -- One definition stands in its group alone; several are branches, which nest one level deeper.
      have each : (piece :: pieces).map (·.reading.tree.nesting) =
          definitions.map fun d => nestingOf d.pattern.source := by
        apply sources.map_eq
        intro d _ piece text
        rw [nestingOf, ← text, piece.treeOf?]
        rfl
      have levels := wraps.nesting (List.cons_ne_nil _ _)
      rw [each] at levels
      rw [nestingOf, tree, fills.length_eq, deepest]
      simp only [Option.map_some, Option.getD_some, Tree.nesting, Tree.nestingAll, Tree.ofBranches_nesting, levels]
      split <;> omega
    · right
      rw [← text] at failed
      refine ⟨?_, failed.compile⟩
      rw [sources.names_nodup, not_not] at twice
      exact twice

/-- Definitions whose patterns are literals or made from a source make a registry, unless two of them declare the same
name or their source is nested too deeply; nothing else is reported. Without such a name each definition stands in its
group as it is read alone, and the nesting is that of the deepest one and the groups around it. A look-ahead of such a
pattern fails through its nesting only. The size of what is compiled is left out of account. -/
theorem composition_exact [Regex.Engine] (nonempty : definitions ≠ []) (made : ∀ d ∈ definitions, d.pattern.Made)
    (small : ∀ source limit, build definitions ≠ .error (.invalidPattern ⟨source, .tooLarge limit⟩)) :
    ((∃ e, build definitions = .error e) ↔
      NameShared definitions ∨ nestingLimit < nestingOf (sourceOf definitions)) ∧
    (∀ e, build definitions = .error e → ∃ d,
      e = .invalidPattern ⟨sourceOf definitions, .malformed (sourceOf definitions) d⟩ ∧
      (NameShared definitions → d.fault = .groupNameDuplicate) ∧
      (¬NameShared definitions → d.fault = .nestingLimitExceeded nestingLimit)) ∧
    (¬NameShared definitions → Combined definitions ∧
      nestingOf (sourceOf definitions) = deepest definitions + if definitions.length = 1 then 3 else 4) ∧
    ∀ p : Pattern, p.Made →
      (∀ source limit, Lookahead.ofPattern p ≠ .error ⟨source, .tooLarge limit⟩) →
      ((∃ e, Lookahead.ofPattern p = .error e) ↔ nestingLimit < nestingOf (Lookahead.sourceOf p)) ∧
      (∀ e, Lookahead.ofPattern p = .error e → ∃ d,
        e = ⟨Lookahead.sourceOf p, .malformed (Lookahead.sourceOf p) d⟩ ∧
        d.fault = .nestingLimitExceeded nestingLimit) ∧
      Lookahead.Enclosed p ∧ nestingOf (Lookahead.sourceOf p) = nestingOf p.source + 2 := by
  have reports (e : BuildError) : build definitions = .error e ↔ _ := build_error_iff nonempty
  have fits : ∀ limit, Regex.compile (sourceOf definitions) ≠ .error (.tooLarge limit) := fun limit large =>
    small _ limit ((reports _).mpr ⟨_, large, rfl⟩)
  have failing : (∃ e, build definitions = .error e) ↔
      ∃ fault, Regex.compile (sourceOf definitions) = .error fault := by
    constructor
    · rintro ⟨e, failed⟩
      obtain ⟨fault, failed, -⟩ := (reports e).mp failed
      exact ⟨fault, failed⟩
    · rintro ⟨fault, failed⟩
      exact ⟨_, (reports _).mpr ⟨fault, failed, rfl⟩⟩
  rw [failing]
  refine ⟨?_, ?_, ?_, fun p made small => ?_⟩
  · rcases composes nonempty made with ⟨distinct, composes, -, -⟩ | ⟨shared, d, -, failed⟩
    · rw [(composes.error_iff fits).1, or_iff_right distinct]
    · exact iff_of_true ⟨_, failed⟩ (.inl shared)
  · intro e failed
    obtain ⟨fault, refused, rfl⟩ := (reports e).mp failed
    rcases composes nonempty made with ⟨distinct, composes, -, -⟩ | ⟨shared, d, twice, clash⟩
    · obtain ⟨d, rfl, deep⟩ := (composes.error_iff fits).2 fault refused
      exact ⟨d, rfl, fun shared => absurd shared distinct, fun _ => deep⟩
    · rw [refused, Except.error.injEq] at clash
      exact ⟨d, by rw [clash], fun _ => twice, fun distinct => absurd shared distinct⟩
  · intro distinct
    rcases composes nonempty made with ⟨-, -, combined, nesting⟩ | ⟨shared, -⟩
    · exact ⟨combined, nesting⟩
    · exact absurd shared distinct
  · obtain ⟨composes, enclosed, nesting⟩ := Lookahead.composes made
    have fits : ∀ limit, Regex.compile (Lookahead.sourceOf p) ≠ .error (.tooLarge limit) := fun limit large =>
      small _ limit (Lookahead.ofPattern_error_iff.mpr ⟨_, large, rfl⟩)
    obtain ⟨failing, reported⟩ := composes.error_iff fits
    refine ⟨?_, fun e failed => ?_, enclosed, nesting⟩
    · rw [← failing]
      simp [Lookahead.ofPattern_error_iff]
    · obtain ⟨fault, refused, rfl⟩ := Lookahead.ofPattern_error_iff.mp failed
      obtain ⟨d, rfl, deep⟩ := reported fault refused
      exact ⟨d, rfl, deep⟩

/-- The first definition ends in a comment, and a parenthesis is in the comment. -/
def commentedDefinitions : List (Definition Unit String Int) := groupDefinitions "(?x)a#("

theorem composition_exact_commented : (∀ d ∈ commentedDefinitions, d.pattern.Made) ∧
    (∃ r, build commentedDefinitions = .ok r) ∧ Combined commentedDefinitions ∧
    nestingOf (sourceOf commentedDefinitions) = 5 ∧
    ∀ d ∈ commentedDefinitions, (∃ l, Lookahead.ofPattern d.pattern = .ok l) ∧ Lookahead.Enclosed d.pattern := by
  have made := groupDefinitions_made (show ((Pattern.ofRegex "(?x)a#(").toOption).isSome by decide +kernel)
  have nonempty : commentedDefinitions ≠ [] := List.cons_ne_nil _ _
  obtain ⟨r, built, -⟩ := ok_of_any
    (show (build commentedDefinitions).toOption.any (fun _ => true) = true by decide +kernel)
  have compiled : ∀ d ∈ commentedDefinitions, (Lookahead.ofPattern d.pattern).toOption.any (fun _ => true) = true := by
    decide +kernel
  obtain ⟨fails, -, combines, lookaheads⟩ := composition_exact nonempty made (by simp [built])
  have distinct : ¬NameShared commentedDefinitions := by
    intro shared
    obtain ⟨e, failed⟩ := fails.mpr (.inl shared)
    simp [built] at failed
  obtain ⟨combined, nesting⟩ := combines distinct
  refine ⟨made, ⟨r, built⟩, combined, ?_, fun d member => ?_⟩
  · rw [nesting]
    decide +kernel
  · obtain ⟨l, ofPattern, -⟩ := ok_of_any (compiled d member)
    exact ⟨⟨l, ofPattern⟩, (lookaheads d.pattern (made d member) (by simp [ofPattern])).2.2.1⟩

end Registry
end Lexicon

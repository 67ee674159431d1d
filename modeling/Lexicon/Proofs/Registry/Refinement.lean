import Lexicon.Proofs.Regex.Standard
import Lexicon.Proofs.Registry.Attribution

/-! The combined matcher does what trying the definitions one by one would do. -/
namespace Lexicon
open Regex (Piece Expr)

/-- The pattern has a look-ahead, which gives the answer for a text: how many bytes it takes there, if any. -/
def Pattern.Answers [Regex.Engine] (p : Pattern) (rest : List Char) (answer : Option Nat) : Prop :=
  ∃ l, Lookahead.ofPattern p = .ok l ∧ l.matchLength rest = answer

theorem Pattern.answers_iff [Regex.Engine] {p : Pattern} {rest : List Char} {answer : Option Nat} :
    p.Answers rest answer ↔ (Lookahead.ofPattern p).toOption.any (fun l => l.matchLength rest = answer) = true := by
  cases made : Lookahead.ofPattern p <;> simp [Answers, made, Except.toOption]

instance [Regex.Engine] (p : Pattern) (rest : List Char) (answer : Option Nat) : Decidable (p.Answers rest answer) :=
  decidable_of_iff _ Pattern.answers_iff.symm

namespace Registry
variable {σ κ ν : Type}

/-- Every recorded number is that of the group around its definition. -/
def Attributed (r : Registry σ κ ν) : Prop :=
  ∀ index slot, r.slots[index]? = some slot → wrapper? r.definitions index = some slot.group

theorem attributed_iff (r : Registry σ κ ν) :
    r.Attributed ↔ ∀ entry ∈ r.slots.zipIdx, wrapper? r.definitions entry.2 = some entry.1.group := by
  constructor
  · intro attributed entry member
    exact attributed _ _ (List.mk_mem_zipIdx_iff_getElem?.mp member)
  · intro each index slot found
    exact each (slot, index) (List.mk_mem_zipIdx_iff_getElem?.mpr found)

instance (r : Registry σ κ ν) : Decidable r.Attributed := decidable_of_iff _ r.attributed_iff.symm

section
variable [Regex.Engine] {definitions : List (Definition σ κ ν)} {pieces : List Piece} {r : Registry σ κ ν}

section
variable {matcher : Regex} {index : Nat} {d : Definition σ κ ν} {piece : Piece} {rest : List Char}

/-- A pattern that is part of a matcher has a look-ahead and, if it can be read alone, compiles alone: it is smaller
than the matcher. -/
theorem Combines.compiles [Regex.Engine.Lawful] (combines : Combines definitions pieces matcher)
    (own : pieces[index]? = some piece) (text : piece.text = d.pattern.source.toList) :
    (∃ re, Regex.compile d.pattern.source = .ok re) ∧ ∃ l, Lookahead.ofPattern d.pattern = .ok l := by
  have member := List.mem_of_getElem? own
  obtain ⟨alone, ahead⟩ := Piece.weight_le member
  refine ⟨⟨_, Regex.compile_of (text ▸ piece.read) piece.lowered (Nat.le_trans alone combines.small)⟩, ?_⟩
  refine ⟨_, (Lookahead.ofPattern_eq text (combines.shallow piece member)).trans (if_neg ?_)⟩
  exact Nat.not_lt.mpr (Nat.le_trans ahead combines.small)

/-- What the look-ahead of a definition answers is what its pattern does at the start of the text. -/
theorem Combines.answers (combines : Combines definitions pieces matcher) (own : pieces[index]? = some piece)
    (text : piece.text = d.pattern.source.toList) {answer : Option Nat} (answers : d.pattern.Answers rest answer) :
    ((Regex.matchHere piece.expr.program none rest).map fun t => utf8Length (rest.take t.taken)) = answer := by
  obtain ⟨l, made, rfl⟩ := answers
  exact (Lookahead.matchLength_alone text (combines.shallow piece (List.mem_of_getElem? own)) made rest).symm

/-- A branch matches only where its definition takes something alone. -/
theorem Combines.branch_none (combines : Combines definitions pieces matcher) (sources : Sources definitions pieces)
    {branch : Nat × Expr} (found : (Piece.branches 0 pieces)[index]? = some branch) :
    ∃ d, definitions[index]? = some d ∧
      (d.pattern.Answers rest none → Regex.matchHere branch.2.program none rest = none) := by
  rw [Piece.branches_getElem?, Option.map_eq_some_iff] at found
  obtain ⟨piece, own, rfl⟩ := found
  have within : index < definitions.length := sources.length ▸ (List.getElem?_eq_some_iff.mp own).1
  have placed := List.getElem?_eq_getElem within
  obtain ⟨other, same, text⟩ := sources.getElem? placed
  rw [own, Option.some.injEq] at same
  subst same
  refine ⟨definitions[index], placed, fun missed => ?_⟩
  rw [Regex.matchHere_renumber, Option.map_eq_none_iff.mp (combines.answers own text missed), Option.map_none]

/-- What matches alone matches as a branch. -/
theorem Matched.of_alone {t : Regex.Thread} (own : pieces[index]? = some piece)
    (alone : Regex.matchHere piece.expr.program none rest = some t) :
    ∃ t', Matched pieces rest index piece t' ∧ t'.taken = t.taken := by
  have renumbered := Regex.matchHere_renumber (· + (Piece.groupsBefore 0 pieces index + 1)) piece.expr none rest
  rw [alone, Option.map_some] at renumbered
  exact ⟨_, ⟨own, renumbered⟩, rfl⟩

/-- The first definition that takes something alone gives the match. -/
theorem Combines.find_first (combines : Combines definitions pieces matcher) (sources : Sources definitions pieces)
    {t : Regex.Thread} (matched : Matched pieces rest index piece t)
    (earlier : ∀ d ∈ definitions.take index, d.pattern.Answers rest none) :
    matcher.find rest = some ⟨0, t.taken, (Piece.groupsBefore 0 pieces index + 1) :: t.groups⟩ := by
  have branch : (Piece.branches 0 pieces)[index]? = some (Piece.groupsBefore 0 pieces index + 1,
      piece.expr.renumber (· + (Piece.groupsBefore 0 pieces index + 1))) := by
    rw [Piece.branches_getElem?, matched.found, Option.map_some]
  rw [combines.find, Expr.firstMatch_at branch matched.matched]
  · rfl
  · intro other member
    obtain ⟨place, taken⟩ := List.getElem?_of_mem member
    rw [List.getElem?_take] at taken
    split at taken
    · next before =>
      obtain ⟨e, found, missed⟩ := combines.branch_none sources taken
      obtain ⟨within, rfl⟩ := List.getElem?_eq_some_iff.mp found
      exact missed (earlier _ (List.mem_take_iff_getElem.mpr ⟨place, by omega, rfl⟩))
    · simp at taken

end

/-- The first definition whose look-ahead takes something is the one that fires, with the same length; where none does,
none fires. If the engine keeps to the laws of sizes, every definition compiles alone and has a look-ahead. That a
definition compiles alone is asked only of patterns that are neither literals nor made from a source. -/
theorem matchStart_refines (built : build definitions = .ok r)
    (alone : ∀ d ∈ definitions, d.pattern.Made ∨ ∃ re, Regex.compile d.pattern.source = .ok re)
    (attributed : r.Attributed) (locations : Regex.Locations) (rest : List Char) :
    (∀ [Regex.Engine.Lawful], ∀ d ∈ definitions, (∃ re, Regex.compile d.pattern.source = .ok re) ∧
      ∃ l, Lookahead.ofPattern d.pattern = .ok l) ∧
    (∀ index d n, definitions[index]? = some d → d.pattern.Answers rest (some n) →
      (∀ earlier ∈ definitions.take index, earlier.pattern.Answers rest none) →
        ∃ hit, (r.matchStart locations rest).1 = some hit ∧ hit.index = index ∧ hit.definition = d ∧
          utf8Length (rest.take hit.length) = n) ∧
    ((∀ d ∈ definitions, d.pattern.Answers rest none) → (r.matchStart locations rest).1 = none) := by
  have separate : ∀ d ∈ definitions, ∃ piece : Piece, piece.text = d.pattern.source.toList := by
    intro d member
    rcases alone d member with made | ⟨re, compiled⟩
    · exact made.piece
    · obtain ⟨piece, text, -⟩ := Piece.ofCompiled compiled
      exact ⟨piece, text⟩
  obtain ⟨pieces, sources⟩ := exists_sources separate
  have combines := build_combines built sources
  refine ⟨?_, ?_, ?_⟩
  · intro lawful d member
    obtain ⟨index, placed⟩ := List.getElem?_of_mem member
    obtain ⟨piece, own, text⟩ := sources.getElem? placed
    exact combines.compiles own text
  · intro index d n placed takes earlier
    obtain ⟨piece, own, text⟩ := sources.getElem? placed
    obtain ⟨t, alone, length⟩ := Option.map_eq_some_iff.mp (combines.answers own text takes)
    obtain ⟨t, matched, same⟩ := Matched.of_alone own alone
    rw [← same] at length
    have inside := (List.getElem?_eq_some_iff.mp matched.found).1
    have numbers : ∀ other ≤ index, ∀ slot, r.slots[other]? = some slot →
        slot.group = Piece.groupsBefore 0 pieces other + 1 := by
      intro other upTo slot found
      have recorded := attributed other slot found
      have within := Nat.lt_of_le_of_lt upTo inside
      rw [build_definitions built, combines.wrapper other within, Option.some.injEq] at recorded
      exact recorded.symm
    refine ⟨⟨index, d, t.taken⟩, ?_, rfl, rfl, length⟩
    rw [matchStart_find, combines.find_first sources matched earlier, Option.bind_some, Nat.zero_add]
    exact matched.firing (build_ok built).2.2 numbers placed t.taken
  · intro missed
    rw [matchStart_find, combines.find, Expr.firstMatch_none]
    · rfl
    · intro branch member
      obtain ⟨place, taken⟩ := List.getElem?_of_mem member
      obtain ⟨d, found, none⟩ := combines.branch_none sources taken
      exact none (missed d (List.mem_of_getElem? found))

end

/-- A keyword in front of the words. One of its groups is repeated no time, the next one is kept. -/
def keywordDefinitions : List (Definition Unit String Int) :=
  [⟨(Pattern.ofRegex "(e)\x7b0\x7d(i)f").toOption.getD (.literal ""), .token "keyword"⟩,
    ⟨(Pattern.ofRegex "[a-z]+").toOption.getD (.literal ""), .token "word"⟩]

theorem matchStart_refines_word : ∃ r, build keywordDefinitions = .ok r ∧
    (∀ d ∈ keywordDefinitions, ∃ re, Regex.compile d.pattern.source = .ok re) ∧ r.Attributed ∧
    (∀ d ∈ keywordDefinitions, ∃ l, Lookahead.ofPattern d.pattern = .ok l) ∧
    ∀ locations, ∃ hit, (r.matchStart locations ['f', 'i', '(']).1 = some hit ∧ hit.index = 1 ∧
      utf8Length ((['f', 'i', '('] : List Char).take hit.length) = 2 := by
  have compiled : ∀ d ∈ keywordDefinitions, (Regex.compile d.pattern.source).toOption.any (fun _ => true) = true := by
    decide +kernel
  have alone : ∀ d ∈ keywordDefinitions, ∃ re, Regex.compile d.pattern.source = .ok re := by
    intro d member
    obtain ⟨re, made, -⟩ := ok_of_any (compiled d member)
    exact ⟨re, made⟩
  obtain ⟨r, built, recorded⟩ := ok_of_any
    (show (build keywordDefinitions).toOption.any (fun r => r.Attributed) = true by decide +kernel)
  have attributed := of_decide_eq_true recorded
  have keyword : ∀ earlier ∈ keywordDefinitions.take 1, earlier.pattern.Answers ['f', 'i', '('] none := by
    decide +kernel
  have word : ∀ d ∈ keywordDefinitions[1]?, d.pattern.Answers ['f', 'i', '('] (some 2) := by decide +kernel
  have refines (locations : Regex.Locations) :=
    matchStart_refines built (fun d member => .inr (alone d member)) attributed locations ['f', 'i', '(']
  refine ⟨r, built, alone, attributed, fun d member => ((refines .empty).1 d member).2, fun locations => ?_⟩
  obtain ⟨hit, fired, index, -, length⟩ := (refines locations).2.1 1 _ 2 rfl (word _ rfl) keyword
  exact ⟨hit, fired, index, length⟩

end Registry
end Lexicon

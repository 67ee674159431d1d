import Lexicon.Proofs.Lookahead
import Lexicon.Proofs.Registry.Refinement

/-! Literals match their text and nothing else, alone and among other definitions: whatever is written in them is
escaped, and what the other definitions switch on ends with their groups. -/
namespace Lexicon
open Regex (Engine Piece Expr)

/-- What is refused under one condition, with one fault. -/
theorem outcome_of_refused {ε α : Type} {refused : Prop} [Decidable refused] {result : Except ε α} {fault : ε}
    {made : α} (outcome : result = if refused then .error fault else .ok made) :
    ((∃ value, result = .ok value) ↔ ¬refused) ∧ (∀ e, result = .error e → e = fault) ∧
      ∀ value, result = .ok value → value = made := by
  subst outcome
  by_cases refuses : refused
  · simp [refuses, eq_comm]
  · simp [refuses, eq_comm]

section
variable [Engine]

namespace Pattern

/-- What is read of a literal. -/
theorem exists_literal (text : String) :
    ∃ piece : Piece, piece.text = (literal text).source.toList ∧ piece.Escapes text.toList :=
  Piece.ofLiteral text

/-- The source of a literal ends in no comment. -/
theorem groupSource_literal (text : String) : (literal text).groupSource = (literal text).source := by
  obtain ⟨piece, source, escapes⟩ := Pattern.exists_literal text
  have closed := groupSource_toList source
  rw [Piece.closed, escapes.comment, Regex.closedText, source] at closed
  exact String.toList_inj.mp (closed.trans (List.append_nil _))

theorem compile_literal (text : String) : ∃ re, re.captureCount = 1 ∧ Regex.compile (literal text).source =
    if Regex.sizeLimit < Engine.weight (Expr.exactly text.toList) then .error (.tooLarge Regex.sizeLimit)
    else .ok re := by
  obtain ⟨piece, source, escapes⟩ := Pattern.exists_literal text
  refine ⟨Regex.ofExpr (literal text).source piece.expr, ?_, ?_⟩
  · have groups : piece.expr.groups = [] := by
      rw [List.eq_nil_iff_forall_not_mem]
      intro group member
      have bounds := piece.groups_bounds member
      rw [escapes.captures] at bounds
      omega
    rw [Regex.captureCount, Regex.ofExpr]
    rcases piece.expr.highestGroup_mem with none | member
    · rw [none]
    · simp [groups] at member
  · rw [Regex.compile_eq (source ▸ piece.read) piece.lowered, escapes.expr]

/-- The source can be read without the switches it was compiled with. -/
def Separate (p : Pattern) : Prop := p.Unspaced ∨ ∃ re, Regex.compile p.source = .ok re

theorem Separate.piece {p : Pattern} (separate : p.Separate) : ∃ piece : Piece, piece.text = p.source.toList := by
  rcases separate with unspaced | ⟨re, compiled⟩
  · exact unspaced.piece
  · obtain ⟨piece, text, -⟩ := Piece.ofCompiled compiled
    exact ⟨piece, text⟩

end Pattern

namespace Lookahead

theorem ofPattern_literal (text : String) : ∃ l, ofPattern (.literal text) =
    if Regex.sizeLimit < Engine.weight (Expr.exactly text.toList).behindStart then
      .error ⟨sourceOf (.literal text), .tooLarge Regex.sizeLimit⟩
    else .ok l := by
  obtain ⟨piece, source, escapes⟩ := Pattern.exists_literal text
  have shallow : piece.reading.tree.tooDeep 2 = none := by
    have flat := escapes.nesting
    rw [Regex.Tree.tooDeep_none]
    exact .inr (by rw [Regex.nestingLimit]; omega)
  have made := ofPattern_eq source shallow
  rw [escapes.expr] at made
  exact ⟨_, made⟩

theorem matchLength_literal {text : String} {l : Lookahead} (made : ofPattern (.literal text) = .ok l)
    (input : List Char) :
    l.matchLength input = if text.toList <+: input then some (utf8Length text.toList) else none := by
  obtain ⟨piece, source, escapes⟩ := Pattern.exists_literal text
  have found := congrArg (Option.map fun outcome => utf8Length (input.take outcome.1))
    (Expr.matchHere_exactly text.toList input)
  rw [Option.map_map] at found
  rw [matchLength_here source made, escapes.expr]
  refine found.trans ?_
  split
  · next starts => rw [Option.map_some, ← List.prefix_iff_eq_take.mp starts]
  · rfl

end Lookahead

end

namespace Registry
variable {σ κ ν : Type}

section
variable [Engine]

/-- The definition at an index takes part in a match of the registry only where the text starts with its own: the match
is then its text, and no look-ahead of a definition before it finds anything there. And it does take part where all of
those find nothing. -/
def TakesExactly (r : Registry σ κ ν) (definitions : List (Definition σ κ ν)) (index : Nat) (text : List Char) : Prop :=
  ∃ group, wrapper? definitions index = some group ∧ ∀ rest,
    (∀ m, r.matcher.find rest = some m → group ∈ m.groups → text <+: rest ∧ m.start = 0 ∧ m.length = text.length ∧
      ∀ earlier ∈ definitions.take index, ∀ n, ¬earlier.pattern.Answers rest (some n)) ∧
    (text <+: rest → (∀ earlier ∈ definitions.take index, earlier.pattern.Answers rest none) →
      ∃ m, r.matcher.find rest = some m ∧ group ∈ m.groups)

variable {definitions : List (Definition σ κ ν)} {pieces : List Piece} {r : Registry σ κ ν}

section
variable {matcher : Regex} {index : Nat} {piece : Piece} {rest : List Char} {m : Regex.Match}

/-- If the group around a definition takes part in a match, the definition matches alone, with the same length, and no
definition before it matches alone. -/
theorem Combines.matched_of_mem (combines : Combines definitions pieces matcher) (own : pieces[index]? = some piece)
    (found : matcher.find rest = some m) (member : Piece.groupsBefore 0 pieces index + 1 ∈ m.groups) :
    m.start = 0 ∧ (∃ t, Regex.matchHere piece.expr.program none rest = some t ∧ t.taken = m.length) ∧
      ∀ earlier ∈ pieces.take index, Regex.matchHere earlier.expr.program none rest = none := by
  obtain ⟨inside, -⟩ := List.getElem?_eq_some_iff.mp own
  obtain ⟨place, other, t, matched, rfl, missed⟩ := combines.find_some found
  obtain rfl := (Piece.wrapper_mem matched.found inside matched.matched).mp member
  obtain rfl := Option.some.inj (own.symm.trans matched.found)
  have alone := matched.matched
  rw [Regex.matchHere_renumber, Option.map_eq_some_iff] at alone
  obtain ⟨t, alone, rfl⟩ := alone
  exact ⟨rfl, ⟨t, alone, rfl⟩, missed⟩

/-- Where a definition does not match alone, its look-ahead finds nothing. -/
theorem Combines.answers_none (combines : Combines definitions pieces matcher) (sources : Sources definitions pieces)
    (missed : ∀ earlier ∈ pieces.take index, Regex.matchHere earlier.expr.program none rest = none) :
    ∀ earlier ∈ definitions.take index, ∀ n, ¬earlier.pattern.Answers rest (some n) := by
  intro earlier member n takes
  obtain ⟨place, lower, rfl⟩ := List.mem_take_iff_getElem.mp member
  obtain ⟨other, own, text⟩ := sources.getElem? (List.getElem?_eq_getElem (show place < definitions.length by omega))
  have among := List.mem_of_getElem? ((List.getElem?_take_of_lt (show place < index by omega)).trans own)
  have answers := combines.answers own text takes
  simp [missed other among] at answers

end

theorem takesExactly (built : build definitions = .ok r) (separate : ∀ d ∈ definitions, d.pattern.Separate)
    {index : Nat} {d : Definition σ κ ν} (placed : definitions[index]? = some d) {text : String}
    (literal : d.pattern = .literal text) : r.TakesExactly definitions index text.toList := by
  obtain ⟨pieces, sources⟩ := exists_sources fun d member => (separate d member).piece
  have combines := build_combines built sources
  obtain ⟨piece, own, read⟩ := sources.getElem? placed
  obtain ⟨inside, -⟩ := List.getElem?_eq_some_iff.mp own
  have outcome (rest : List Char) := Expr.matchHere_exactly text.toList rest
  obtain ⟨other, source, escapes⟩ := Pattern.exists_literal text
  rw [literal] at read
  rw [← escapes.expr, ← (Piece.unique (read.trans source.symm)).2] at outcome
  refine ⟨_, combines.wrapper index inside, fun rest => ⟨fun m found member => ?_, fun starts earlier => ?_⟩⟩
  · obtain ⟨start, ⟨t, matched, taken⟩, missed⟩ := combines.matched_of_mem own found member
    have length := outcome rest
    rw [matched, Option.map_some] at length
    split at length
    · next starts =>
      have same : t.taken = text.toList.length := congrArg Prod.fst (Option.some.inj length)
      exact ⟨starts, start, taken.symm.trans same, combines.answers_none sources missed⟩
    · simp at length
  · have length := outcome rest
    rw [if_pos starts, Option.map_eq_some_iff] at length
    obtain ⟨t, alone, -⟩ := length
    obtain ⟨t, matched, -⟩ := Matched.of_alone own alone
    exact ⟨_, combines.find_first sources matched earlier, List.mem_cons_self⟩

end

/-- A literal matches its own text and nothing else, whatever it is written of. Its look-ahead and its source compile
unless they are too large, and nothing else is reported; the source has no group, and needs nothing behind it to be
put into one. In a registry of patterns that can be read on their own it matches its text whatever the others switch
on. -/
theorem literal_exact [Engine] (text : String) :
    ((∃ l, Lookahead.ofPattern (.literal text) = .ok l) ↔
      Engine.weight (Expr.exactly text.toList).behindStart ≤ Regex.sizeLimit) ∧
    (∀ e, Lookahead.ofPattern (.literal text) = .error e →
      e = ⟨Lookahead.sourceOf (.literal text), .tooLarge Regex.sizeLimit⟩) ∧
    (∀ l, Lookahead.ofPattern (.literal text) = .ok l → ∀ input,
      l.matchLength input = if text.toList <+: input then some (utf8Length text.toList) else none) ∧
    ((∃ re, Regex.compile (Pattern.literal text).source = .ok re) ↔
      Engine.weight (Expr.exactly text.toList) ≤ Regex.sizeLimit) ∧
    (∀ e, Regex.compile (Pattern.literal text).source = .error e → e = .tooLarge Regex.sizeLimit) ∧
    (∀ re, Regex.compile (Pattern.literal text).source = .ok re → re.captureCount = 1) ∧
    (Pattern.literal text).groupSource = (Pattern.literal text).source ∧
    ∀ (definitions : List (Definition σ κ ν)) r, build definitions = .ok r →
      (∀ d ∈ definitions, d.pattern.Separate) → ∀ index d, definitions[index]? = some d →
        d.pattern = .literal text → r.TakesExactly definitions index text.toList := by
  obtain ⟨l, ahead⟩ := Lookahead.ofPattern_literal text
  obtain ⟨re, groups, alone⟩ := Pattern.compile_literal text
  obtain ⟨succeeds, fails, -⟩ := outcome_of_refused ahead
  obtain ⟨compiles, rejects, own⟩ := outcome_of_refused alone
  refine ⟨succeeds.trans Nat.not_lt, fails, fun l => Lookahead.matchLength_literal, compiles.trans Nat.not_lt, rejects,
    fun re compiled => own re compiled ▸ groups, Pattern.groupSource_literal text, ?_⟩
  exact fun definitions r built separate index d placed literal => takesExactly built separate placed literal

/-- A pattern in front of a literal. -/
def literalBehind (p : Pattern) (text : String) : List (Definition Unit String Int) :=
  [⟨p, .token "other"⟩, ⟨.literal text, .token "literal"⟩]

/-- Every switch that a pattern has, and a comment that is not closed. -/
def switchingSource : String := "(?ixsU)y+ | . # ("

/-- What would switch, group, repeat or open a comment if it were not escaped. -/
def markedText : String := "#A.(?i)\\d+\x7b2\x7d|\n"

theorem literal_exact_among_switches : ∃ p r l, Pattern.ofRegex switchingSource = .ok p ∧
    build (literalBehind p markedText) = .ok r ∧ r.TakesExactly (literalBehind p markedText) 1 markedText.toList ∧
    Lookahead.ofPattern (.literal markedText) = .ok l ∧
    l.matchLength (markedText.toList ++ ['y']) = some (utf8Length markedText.toList) ∧
    l.matchLength "#a.(?i)\\d+\x7b2\x7d|\n".toList = none := by
  obtain ⟨p, made, outcome⟩ := ok_of_any (show (Pattern.ofRegex switchingSource).toOption.any (fun p =>
    (build (literalBehind p markedText)).toOption.any fun _ => true) = true by decide +kernel)
  obtain ⟨r, built, -⟩ := ok_of_any outcome
  obtain ⟨succeeds, -, length, -, -, -, -, registered⟩ :=
    literal_exact (σ := Unit) (κ := String) (ν := Int) markedText
  obtain ⟨l, ahead⟩ := succeeds.mpr (by decide +kernel)
  obtain ⟨re, compiled, rfl, same⟩ := Pattern.ofRegex_ok made
  have separate : ∀ d ∈ literalBehind (.regex re) markedText, d.pattern.Separate := by
    intro d member
    simp only [literalBehind, List.mem_cons, List.not_mem_nil, or_false] at member
    rcases member with rfl | rfl
    · exact .inr ⟨re, by rw [Pattern.source, same]; exact compiled⟩
    · exact .inl (.inl ⟨markedText, rfl⟩)
  refine ⟨_, r, l, made, built, registered _ r built separate 1 _ rfl rfl, ahead, ?_, ?_⟩
  · rw [length l ahead, if_pos (List.prefix_append _ _)]
  · rw [length l ahead, if_neg (by decide +kernel)]

/-- One letter, so many times. -/
def repeatedLetter (n : Nat) : String := String.ofList (List.replicate n 'a')

open Regex.Expr in
theorem exactly_repeatedLetter_weight (n : Nat) : (exactly (repeatedLetter n).toList).weight = 32 * n := by
  rw [repeatedLetter, String.toList_ofList]
  induction n with
  | zero => rfl
  | succ n ih =>
    have letter : (ofSet true (.single 'a')).weight = 32 := by decide
    rw [List.replicate_succ, exactly_cons]
    split
    · next last =>
      obtain rfl : n = 0 := by simpa using last
      exact letter
    · rw [weight, letter, ih, Nat.mul_succ, Nat.add_comm]

/-- A long literal has no look-ahead, and its source does not compile. And a pattern that was compiled in verbose mode,
where these are an `a` and a comment, closes its group without it: what it switches on then holds for the literal behind
it, which matches another text. -/
theorem literal_inexact :
    (∀ l, Lookahead.ofPattern (.literal (repeatedLetter 480000)) ≠ .ok l) ∧
    (∀ re, Regex.compile (Pattern.literal (repeatedLetter 480000)).source ≠ .ok re) ∧
    ∃ re r group, Regex.compileWith ⟨.initial, true⟩ "a#)(?i)|(?:b" = .ok re ∧
      build (literalBehind (.regex re) "t") = .ok r ∧ wrapper? (literalBehind (.regex re) "t") 1 = some group ∧
      ∃ m, r.matcher.find ['T'] = some m ∧ group ∈ m.groups ∧ ¬['t'] <+: ['T'] := by
  refine ⟨fun l made => ?_, fun re compiled => ?_, ?_⟩
  · obtain ⟨_, ahead⟩ := Lookahead.ofPattern_literal (repeatedLetter 480000)
    refine (outcome_of_refused ahead).1.mp ⟨l, made⟩ ?_
    change Regex.sizeLimit < (Expr.exactly _).behindStart.weight
    rw [Expr.behindStart_weight, exactly_repeatedLetter_weight]
    decide
  · obtain ⟨_, -, alone⟩ := Pattern.compile_literal (repeatedLetter 480000)
    refine (outcome_of_refused alone).1.mp ⟨re, compiled⟩ ?_
    change Regex.sizeLimit < (Expr.exactly _).weight
    rw [exactly_repeatedLetter_weight]
    decide
  · obtain ⟨re, compiled, outcome⟩ := ok_of_any (show (Regex.compileWith ⟨.initial, true⟩ "a#)(?i)|(?:b").toOption.any
      (fun re => (build (literalBehind (.regex re) "t")).toOption.any fun r =>
        (wrapper? (literalBehind (.regex re) "t") 1).any fun group =>
          (r.matcher.find ['T']).any fun m => m.groups.contains group) = true by
      decide +kernel)
    obtain ⟨r, built, outcome⟩ := ok_of_any outcome
    obtain ⟨group, wraps, outcome⟩ := (Option.any_eq_true _ _).mp outcome
    obtain ⟨m, found, member⟩ := (Option.any_eq_true _ _).mp outcome
    exact ⟨re, r, group, compiled, built, wraps, m, found, List.contains_iff_mem.mp member, by decide⟩

end Registry
end Lexicon

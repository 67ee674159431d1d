import Lexicon.Proofs.Registry.Anchoring

/-! A look-ahead agrees with the regular expression that it is made from: it tells the end of the leftmost match where
that match starts at the cursor, and nothing where it starts later or nowhere. -/
namespace Lexicon
open Regex (Piece Expr Tree ofExpr)

namespace Regex

section
variable {program : Array Instr} {anchored : Bool} {before : Option Char} {start : Nat} {rest : List Char} {m : Match}

/-- A search never turns back. -/
theorem search_le (found : search program anchored before start rest = some m) : start ≤ m.start := by
  induction rest generalizing before start with
  | nil =>
    unfold search at found
    split at found
    · cases found
      exact Nat.le_refl _
    · simp at found
  | cons c rest ih =>
    unfold search at found
    split at found
    · cases found
      exact Nat.le_refl _
    · cases anchored with
      | true => simp at found
      | false => exact Nat.le_of_succ_le (ih (by simpa using found))

/-- Where nothing matches here, what is found starts later. -/
theorem search_lt (fails : matchHere program before rest = none)
    (found : search program anchored before start rest = some m) : start < m.start := by
  unfold search at found
  rw [fails] at found
  cases rest with
  | nil => simp at found
  | cons c rest =>
    cases anchored with
    | true => simp at found
    | false => exact search_le (by simpa using found)

end

/-- The leftmost match of a text, if it starts where the text does, is the match there. -/
theorem find_at_start (re : Regex) (text : List Char) : ((re.find text).filter fun m => m.start = 0) =
    (matchHere re.program none text).map fun t => ⟨0, t.taken, t.groups⟩ := by
  cases here : matchHere re.program none text with
  | some t =>
    have found : re.find text = some ⟨0, t.taken, t.groups⟩ := by
      unfold find search
      rw [here]
    rw [found]
    rfl
  | none =>
    rw [Option.map_none, Option.filter_eq_none_iff]
    intro m found
    have later := search_lt here found
    simpa using Nat.ne_of_gt later

end Regex

namespace Lookahead
section
variable [Regex.Engine] {p : Pattern} {l : Lookahead} {piece : Piece}

/-- What a look-ahead is made from leaves room for the group around it. -/
theorem ofPattern_shallow (text : piece.text = p.source.toList) (made : ofPattern p = .ok l) :
    piece.reading.tree.tooDeep 2 = none := by
  obtain ⟨reading, -, -, found, -⟩ := Regex.compile_ok (ofPattern_compile made)
  rw [sourceOf_toList text] at found
  obtain ⟨whole, outer, body, alike, tree⟩ := Regex.tree_anchored found
  obtain ⟨-, -, -, -, -, limited⟩ := Regex.read_ok found
  rw [tree] at limited
  have room := Tree.tooDeep_anchored.mp limited
  rwa [Tree.tooDeep_none, Tree.nesting_like alike, ← Tree.tooDeep_none]

/-- The length of a look-ahead is that of the match at the start, of the pattern alone. -/
theorem matchLength_here (text : piece.text = p.source.toList) (made : ofPattern p = .ok l) (rest : List Char) :
    l.matchLength rest =
      (Regex.matchHere piece.expr.program none rest).map fun t => utf8Length (rest.take t.taken) :=
  matchLength_alone text (ofPattern_shallow text made) made rest

/-- The look-ahead of a pattern that is made from a source says of every text what the pattern's own regular expression
says of it: the end of the match that the expression finds, if the match starts at the start of the text, and else
nothing. -/
theorem matchLength_own {source : String} (made : Pattern.ofRegex source = .ok p) (ahead : ofPattern p = .ok l) :
    ∃ re, Regex.compile source = .ok re ∧ p = .regex re ∧ ∀ text,
      (∀ n, l.matchLength text = some n ↔
        ∃ m, re.find text = some m ∧ m.start = 0 ∧ utf8Length (text.take (m.start + m.length)) = n) ∧
      (l.matchLength text = none ↔ ∀ m, re.find text = some m → m.start ≠ 0) := by
  obtain ⟨re, compiled, rfl, same⟩ := Pattern.ofRegex_ok made
  obtain ⟨piece, own, built⟩ := Piece.ofCompiled compiled
  have alone : piece.text = (Pattern.regex re).source.toList := by rw [own, Pattern.source, same]
  have length (text : List Char) : l.matchLength text =
      ((re.find text).filter fun m => m.start = 0).map fun m => utf8Length (text.take m.length) := by
    rw [matchLength_here alone ahead, Regex.find_at_start, Option.map_map, built]
    rfl
  refine ⟨re, compiled, rfl, fun text => ⟨fun n => ?_, ?_⟩⟩
  · simp only [length, Option.map_eq_some_iff, Option.filter_eq_some_iff, decide_eq_true_eq, and_assoc]
    constructor
    · rintro ⟨m, found, start, ends⟩
      exact ⟨m, found, start, by rwa [start, Nat.zero_add]⟩
    · rintro ⟨m, found, start, ends⟩
      exact ⟨m, found, start, by rwa [start, Nat.zero_add] at ends⟩
  · simp only [length, Option.map_eq_none_iff, Option.filter_eq_none_iff, decide_eq_true_eq]

end

/-- Branches without a group around them, one of which ignores the case and prefers less, a boundary behind the start
of the text, and a comment that is not closed and holds a parenthesis. -/
def mixedSource : String := "x+|(?i)y{1,2}?|^z\\b(?x) # a | ("

theorem matchLength_own_mixed : ∃ p l, Pattern.ofRegex mixedSource = .ok p ∧ ofPattern p = .ok l ∧
    ∃ re, Regex.compile mixedSource = .ok re ∧ p = .regex re ∧
      (∃ m, re.find ['Y', 'Y'] = some m ∧ m.start = 0 ∧ utf8Length (['Y', 'Y'].take (m.start + m.length)) = 1) ∧
      ∀ m, re.find ['-', 'x'] = some m → m.start ≠ 0 := by
  obtain ⟨p, made, ahead⟩ := ok_of_any (show (Pattern.ofRegex mixedSource).toOption.any (fun p =>
    (ofPattern p).toOption.any fun l => l.matchLength ['Y', 'Y'] = some 1 ∧ l.matchLength ['-', 'x'] = none) = true by
    decide +kernel)
  obtain ⟨l, ahead, lengths⟩ := ok_of_any ahead
  obtain ⟨one, nothing⟩ := of_decide_eq_true lengths
  obtain ⟨re, compiled, same, own⟩ := matchLength_own made ahead
  exact ⟨p, l, made, ahead, re, compiled, same, ((own _).1 1).mp one, (own _).2.mp nothing⟩

end Lookahead
end Lexicon

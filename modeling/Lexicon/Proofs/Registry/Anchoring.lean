import Lexicon.Proofs.Regex.Reading.Anchor
import Lexicon.Proofs.Regex.Switches
import Lexicon.Proofs.Registry.Attribution

/-! Matches start at the cursor, as long as no pattern closes the group that is put around it: then a bar behind it
stands outside of the group, and what is behind the bar may match anywhere. -/
namespace Lexicon
open Regex (Piece Expr Tree read ofExpr)

namespace Regex

/-- A bar of the source stands outside of all its groups. -/
def hasOuterBar (source : String) : Bool :=
  match read false source.toList with
  | .ok ⟨.alternation _ _, _, _⟩ => true
  | _ => false

theorem hasOuterBar_concat {source : String}
    (whole : ∀ reading, read false source.toList = .ok reading → ∃ span parts, reading.tree = .concat span parts) :
    hasOuterBar source = false := by
  unfold hasOuterBar
  split
  · next found =>
    obtain ⟨span, parts, tree⟩ := whole _ found
    simp at tree
  · rfl

/-- What begins with the start of the text can only match there. -/
theorem lower_anchored [Engine] {span : Span} {parts : List Tree} {flags after : Flags} {expr : Expr}
    (lowered : (Tree.concat span (startAnchor :: parts)).lower flags = .ok (expr, after)) : expr.isAnchored = true := by
  simp only [Tree.lower, Tree.lowerAll, startAnchor, Anchor.lower] at lowered
  cases rest : Tree.lowerAll flags parts with
  | error e => simp [rest] at lowered
  | ok meaning =>
    simp only [rest, Except.ok.injEq, Prod.mk.injEq] at lowered
    rw [← lowered.1, Expr.seqAll, List.flatMap_cons]
    cases meaning.1.flatMap Expr.parts <;> rfl

/-- Behind the start of the text and the opening of a group, all that can be compiled is anchored, unless a bar stands
outside of the group. -/
theorem compile_anchored [Engine] {source : String} {rest : List Char} {re : Regex}
    (text : source.toList = '\\' :: 'A' :: '(' :: '?' :: ':' :: rest) (compiled : compile source = .ok re)
    (inside : hasOuterBar source = false) : re.expr.isAnchored = true := by
  obtain ⟨reading, expr, flags, found, lowered, -, rfl⟩ := compile_ok compiled
  rcases read_behind_start (text ▸ found) with ⟨span, branches, tree⟩ | ⟨span, parts, tree⟩
  · obtain ⟨_, captures, comment⟩ := reading
    simp only at tree
    subst tree
    simp [hasOuterBar, found] at inside
  · rw [tree] at lowered
    exact lower_anchored lowered

end Regex

/-- A literal, or a regular expression that was compiled with any switches but verbose mode. -/
def Pattern.Unspaced [Regex.Engine] (p : Pattern) : Prop :=
  (∃ text, p = .literal text) ∨
    ∃ flags source re, Regex.compileWith ⟨flags, false⟩ source = .ok re ∧ p = .regex re

theorem Pattern.Unspaced.piece [Regex.Engine] {p : Pattern} (unspaced : p.Unspaced) :
    ∃ piece : Piece, piece.text = p.source.toList := by
  rcases unspaced with ⟨text, rfl⟩ | ⟨flags, source, re, compiled, rfl⟩
  · obtain ⟨piece, text, -⟩ := Piece.ofLiteral text
    exact ⟨piece, text⟩
  · obtain ⟨same, reading, expr, after, found, lowered⟩ := Regex.compileWith_ok compiled
    exact ⟨⟨source.toList, reading, found, expr, after, lowered⟩, by rw [Pattern.source, same]⟩

theorem Lookahead.hasOuterBar_sourceOf [Regex.Engine] {p : Pattern} (unspaced : p.Unspaced) :
    Regex.hasOuterBar (Lookahead.sourceOf p) = false := by
  obtain ⟨piece, text⟩ := unspaced.piece
  apply Regex.hasOuterBar_concat
  intro reading found
  obtain ⟨whole, outer, body, -, tree⟩ := Regex.tree_anchored (Lookahead.sourceOf_toList text ▸ found)
  exact ⟨_, _, tree⟩

theorem Lookahead.ofPattern_compile [Regex.Engine] {p : Pattern} {l : Lookahead}
    (made : Lookahead.ofPattern p = .ok l) :
    Regex.compile (Lookahead.sourceOf p) = .ok l.anchored := by
  unfold Lookahead.ofPattern PatternError.guard at made
  cases compiled : Regex.compile (Lookahead.sourceOf p) with
  | error e => simp [compiled, Except.map] at made
  | ok re =>
    simp only [compiled, Except.map, Except.ok.injEq] at made
    rw [← made]

namespace Registry
variable {σ κ ν : Type}

theorem hasOuterBar_sourceOf [Regex.Engine] {definitions : List (Definition σ κ ν)} (nonempty : definitions ≠ [])
    (unspaced : ∀ d ∈ definitions, d.pattern.Unspaced) : Regex.hasOuterBar (sourceOf definitions) = false := by
  obtain ⟨pieces, sources⟩ := exists_sources fun d member => (unspaced d member).piece
  apply Regex.hasOuterBar_concat
  intro reading found
  rw [sourceOf_toList sources] at found
  cases pieces with
  | nil => exact absurd (List.eq_nil_of_length_eq_zero sources.length.symm) nonempty
  | cons piece pieces =>
    obtain ⟨trees, whole, outer, inner, -, tree⟩ := Regex.read_alternatives found
    exact ⟨_, _, tree⟩

/-- What fires has the length of the match. -/
theorem firing_length {locations : Regex.Locations} {length start : Nat} {slots : List (Slot σ κ ν)} {hit : Hit σ κ ν}
    (fired : firing locations length start slots = some hit) : hit.length = length := by
  induction slots generalizing start with
  | nil => simp [firing] at fired
  | cons first rest ih =>
    unfold firing at fired
    split at fired
    · cases fired
      rfl
    · exact ih fired

/-- A match starts at the cursor, and its length is that of a match of the text from the cursor on, as long as no bar
stands outside of the group around the patterns. With literals and with what is compiled without verbose mode none does,
whatever other switches are used. -/
theorem match_at_cursor [Regex.Engine] :
    (∀ p l, Lookahead.ofPattern p = .ok l →
      (p.Unspaced → Regex.hasOuterBar (Lookahead.sourceOf p) = false) ∧
      (Regex.hasOuterBar (Lookahead.sourceOf p) = false → ∀ text n, l.matchLength text = some n →
        ∃ t, Regex.matchHere l.anchored.program none text = some t ∧
          l.anchored.find text = some ⟨0, t.taken, t.groups⟩ ∧ n = utf8Length (text.take t.taken))) ∧
    ∀ (definitions : List (Definition σ κ ν)) r, build definitions = .ok r →
      ((∀ d ∈ definitions, d.pattern.Unspaced) → Regex.hasOuterBar (sourceOf definitions) = false) ∧
      (Regex.hasOuterBar (sourceOf definitions) = false → ∀ text,
        (∀ m, r.matcher.find text = some m → m.start = 0) ∧
        ∀ locations hit, (r.matchStart locations text).1 = some hit →
          ∃ t, Regex.matchHere r.matcher.program none text = some t ∧ hit.length = t.taken) := by
  refine ⟨fun p l made => ⟨Lookahead.hasOuterBar_sourceOf, fun inside text n length => ?_⟩,
    fun definitions r built => ⟨hasOuterBar_sourceOf (build_ok built).1, fun inside text => ?_⟩⟩
  · have source : (Lookahead.sourceOf p).toList =
        '\\' :: 'A' :: '(' :: '?' :: ':' :: (p.groupSource ++ ")").toList := by
      rw [Lookahead.sourceOf, String.append_assoc, String.toList_append]
      rfl
    have found := Regex.find_anchored
      (Regex.compile_anchored source (Lookahead.ofPattern_compile made) inside) text
    rw [Lookahead.matchLength, Option.map_eq_some_iff] at length
    obtain ⟨m, matched, rfl⟩ := length
    obtain ⟨t, here, rfl⟩ := Option.map_eq_some_iff.mp (found.symm.trans matched)
    exact ⟨t, here, matched, by rw [Nat.zero_add]⟩
  · have source : ∃ rest, (sourceOf definitions).toList = '\\' :: 'A' :: '(' :: '?' :: ':' :: rest := by
      rw [sourceOf, String.append_assoc, String.toList_append]
      exact ⟨_, rfl⟩
    obtain ⟨rest, source⟩ := source
    have found := Regex.find_anchored (Regex.compile_anchored source (build_ok built).2.1 inside) text
    refine ⟨fun m matched => ?_, fun locations hit fired => ?_⟩
    · obtain ⟨t, -, rfl⟩ := Option.map_eq_some_iff.mp (found.symm.trans matched)
      rfl
    · rw [matchStart_find, Option.bind_eq_some_iff] at fired
      obtain ⟨m, matched, fired⟩ := fired
      obtain ⟨t, here, rfl⟩ := Option.map_eq_some_iff.mp (found.symm.trans matched)
      exact ⟨t, here, (firing_length fired).trans (Nat.zero_add _)⟩

/-- A keyword and a sign. -/
def keywordWith (pattern : Pattern) : List (Definition Unit String Int) :=
  [⟨pattern, .token "keyword"⟩, ⟨.literal "(", .token "sign"⟩]

/-- Letters of either case. -/
def caseless : Regex.Flags := { Regex.Flags.initial with caseInsensitive := true }

theorem match_at_cursor_caseless : ∃ re l r hit, Regex.compileWith ⟨caseless, false⟩ "i|f" = .ok re ∧
    Lookahead.ofPattern (.regex re) = .ok l ∧ l.matchLength ['i', '('] = some 1 ∧
    (∃ t, Regex.matchHere l.anchored.program none ['i', '('] = some t ∧
      l.anchored.find ['i', '('] = some ⟨0, t.taken, t.groups⟩) ∧
    build (keywordWith (.regex re)) = .ok r ∧ (r.matchStart .empty ['i', '(']).1 = some hit ∧
    ∃ t, Regex.matchHere r.matcher.program none ['i', '('] = some t ∧ hit.length = t.taken := by
  obtain ⟨re, compiled, outcome⟩ := ok_of_any (show (Regex.compileWith ⟨caseless, false⟩ "i|f").toOption.any (fun re =>
    (Lookahead.ofPattern (.regex re)).toOption.any (fun l => l.matchLength ['i', '('] = some 1) &&
      (build (keywordWith (.regex re))).toOption.any fun r => (r.matchStart .empty ['i', '(']).1.isSome) = true by
    decide +kernel)
  rw [Bool.and_eq_true] at outcome
  obtain ⟨l, made, length⟩ := ok_of_any outcome.1
  obtain ⟨r, built, fired⟩ := ok_of_any outcome.2
  obtain ⟨hit, fired⟩ := Option.isSome_iff_exists.mp fired
  have unspaced : Pattern.Unspaced (.regex re) := .inr ⟨caseless, "i|f", re, compiled, rfl⟩
  have each : ∀ d ∈ keywordWith (.regex re), d.pattern.Unspaced := by
    intro d member
    simp only [keywordWith, List.mem_cons, List.not_mem_nil, or_false] at member
    rcases member with rfl | rfl
    · exact unspaced
    · exact .inl ⟨_, rfl⟩
  obtain ⟨lookaheads, registries⟩ := match_at_cursor (σ := Unit) (κ := String) (ν := Int)
  obtain ⟨enclosed, anchored⟩ := lookaheads _ l made
  obtain ⟨t, here, found, -⟩ := anchored (enclosed unspaced) _ 1 (of_decide_eq_true length)
  obtain ⟨inside, start⟩ := registries _ r built
  exact ⟨re, l, r, hit, compiled, made, of_decide_eq_true length, ⟨t, here, found⟩, built, fired,
    (start (inside each) _).2 _ _ fired⟩

/-- In verbose mode these are an `a` and a comment. Without it the comment closes the group that is put around the
pattern, and there is a bar behind it: what is behind the bar matches later in the text. The registry then reports a
definition that does not match there at all. -/
theorem match_behind_cursor :
    (∃ re l, Regex.compileWith ⟨.initial, true⟩ "a#)|(b" = .ok re ∧ Lookahead.ofPattern (.regex re) = .ok l ∧
      l.anchored.find ['x', 'b'] = some ⟨1, 1, [1]⟩ ∧ l.matchLength ['x', 'b'] = some 2) ∧
    ∃ re r, Regex.compileWith ⟨.initial, true⟩ "a#))|((b" = .ok re ∧ build (keywordWith (.regex re)) = .ok r ∧
      (r.matcher.find ['x', 'b']).map (·.start) = some 1 ∧
      ((r.matchStart .empty ['x', 'b']).1.map fun hit => (hit.index, hit.length)) = some (1, 2) := by
  constructor
  · obtain ⟨re, compiled, outcome⟩ := ok_of_any (show (Regex.compileWith ⟨.initial, true⟩ "a#)|(b").toOption.any
      (fun re => (Lookahead.ofPattern (.regex re)).toOption.any fun l =>
        l.anchored.find ['x', 'b'] = some ⟨1, 1, [1]⟩ ∧ l.matchLength ['x', 'b'] = some 2) = true by
      decide +kernel)
    obtain ⟨l, made, outcome⟩ := ok_of_any outcome
    exact ⟨re, l, compiled, made, of_decide_eq_true outcome⟩
  · obtain ⟨re, compiled, outcome⟩ := ok_of_any (show (Regex.compileWith ⟨.initial, true⟩ "a#))|((b").toOption.any
      (fun re => (build (keywordWith (.regex re))).toOption.any fun r =>
        (r.matcher.find ['x', 'b']).map (·.start) = some 1 ∧
          ((r.matchStart .empty ['x', 'b']).1.map fun hit => (hit.index, hit.length)) = some (1, 2)) = true by
      decide +kernel)
    obtain ⟨r, built, outcome⟩ := ok_of_any outcome
    exact ⟨re, r, compiled, built, of_decide_eq_true outcome⟩

end Registry
end Lexicon

import Lexicon.Proofs.Regex.Wrapping

/-! What compiling a source comes to if it is put together from patterns that can be read alone. There is no fault but
that a name is declared twice, or that the source is nested too deeply. -/
namespace Lexicon.Regex
open Reader (Finishes Duplicate)

/-- The tree of a pattern, however deep its parts nest. -/
def treeOf? (pattern : List Char) : Option Tree :=
  ((Reader.ofList false pattern).runAll.bind Reader.finish).toOption

/-- How deep the parts of a source nest. -/
def nestingOf (source : String) : Nat := ((treeOf? source.toList).map Tree.nesting).getD 0

/-- The names that a source declares. -/
def namesOf (source : String) : List String := ((treeOf? source.toList).map Tree.names).getD []

section
variable {pattern : List Char} {source : String} {last : Reader}

theorem Reader.Finishes.treeOf? (finishes : Finishes pattern last) :
    treeOf? pattern = some (last.contents last.tape.offset) := by
  simp only [Regex.treeOf?, finishes.ran, Except.bind, Reader.finish, finishes.bracket, finishes.groups,
    Except.toOption]

theorem treeOf?_read {reading : Reading} (found : read false pattern = .ok reading) :
    treeOf? pattern = some reading.tree := by
  obtain ⟨last, ran, bracket, groups, rfl, -⟩ := read_ok found
  exact Reader.Finishes.treeOf? ⟨ran, bracket, groups⟩

/-- A pattern that is read to its end is accepted, or it is nested too deeply. -/
theorem Reader.Finishes.read (finishes : Finishes pattern last)
    (levels : 0 < (last.contents last.tape.offset).nesting) :
    ((last.contents last.tape.offset).nesting ≤ nestingLimit ∧ Regex.read false pattern =
      .ok ⟨last.contents last.tape.offset, last.captures, last.tape.openComment⟩) ∨
    (nestingLimit < (last.contents last.tape.offset).nesting ∧ ∃ span, Regex.read false pattern =
      .error (.single (.nestingLimitExceeded nestingLimit) span)) := by
  have room := (last.contents last.tape.offset).tooDeep_none 0
  cases deep : (last.contents last.tape.offset).tooDeep 0 with
  | none =>
    have fits := room.mp deep
    unfold HasRoom at fits
    exact .inl ⟨by omega, read_of_runAll finishes.ran finishes.bracket finishes.groups deep⟩
  | some span =>
    have tight : ¬HasRoom 0 (last.contents last.tape.offset).nesting := by simp [← room, deep]
    unfold HasRoom at tight
    refine .inr ⟨by omega, span, ?_⟩
    have same : Reader.run pattern.length (.ofList false pattern) = .ok last := finishes.ran
    unfold Regex.read
    simp only [same, Reader.finish, finishes.bracket, finishes.groups, deep]

variable [Engine]

theorem Piece.treeOf? (piece : Piece) : treeOf? piece.text = some piece.reading.tree := treeOf?_read piece.read

/-- A source compiles, or it is too large, or it is nested too deeply. -/
inductive Composes (source : String) : Prop where
  | compiles (shallow : nestingOf source ≤ nestingLimit) {re : Regex} (compiled : compile source = .ok re)
  | large (shallow : nestingOf source ≤ nestingLimit) (failed : compile source = .error (.tooLarge sizeLimit))
  | deep (deep : nestingLimit < nestingOf source) {span : Span} (failed : compile source =
      .error (.malformed source (.single (.nestingLimitExceeded nestingLimit) span)))

/-- What is read to its end and means something has no other fault. -/
theorem Reader.Finishes.composes {expr : Expr} {flags : Flags} (finishes : Finishes source.toList last)
    (levels : 0 < (last.contents last.tape.offset).nesting)
    (lowered : (last.contents last.tape.offset).lower .initial = .ok (expr, flags)) : Composes source := by
  have nesting : nestingOf source = (last.contents last.tape.offset).nesting := by
    rw [nestingOf, finishes.treeOf?]
    rfl
  rcases finishes.read levels with ⟨shallow, found⟩ | ⟨deep, span, failed⟩
  · by_cases large : sizeLimit < Engine.weight expr
    · refine .large (nesting ▸ shallow) ?_
      have same : Regex.read Options.default.ignoreBlanks source.toList = _ := found
      have meaning : (last.contents last.tape.offset).lower Options.default.flags = .ok (expr, flags) := lowered
      unfold Regex.compile compileWith parse
      simp only [same, meaning, Except.map]
      rw [if_pos large]
    · exact .compiles (nesting ▸ shallow) (compile_of found lowered (Nat.not_lt.mp large))
  · have same : Regex.read Options.default.ignoreBlanks source.toList = _ := failed
    have reported : Regex.compile source =
        .error (.malformed source (.single (.nestingLimitExceeded nestingLimit) span)) := by
      unfold Regex.compile compileWith parse
      simp only [same]
    exact .deep (nesting ▸ deep) reported

/-- Where the size is no matter, such a source fails exactly if it is nested too deeply, and that is reported. -/
theorem Composes.error_iff (composes : Composes source) (small : ∀ limit, compile source ≠ .error (.tooLarge limit)) :
    ((∃ fault, compile source = .error fault) ↔ nestingLimit < nestingOf source) ∧
      ∀ fault, compile source = .error fault → ∃ d, fault = .malformed source d ∧
        d.fault = .nestingLimitExceeded nestingLimit := by
  cases composes with
  | compiles shallow compiled => simp [compiled, shallow]
  | large _ failed => exact absurd failed (small _)
  | deep deep failed =>
    simp only [failed, deep, Except.error.injEq, exists_eq', true_and]
    rintro fault rfl
    exact ⟨_, rfl, rfl⟩

/-- A name that is declared twice is the fault that is reported. -/
theorem Reader.Duplicate.compile (twice : Duplicate (Reader.ofList false source.toList).runAll) :
    ∃ d, d.fault = .groupNameDuplicate ∧ Regex.compile source = .error (.malformed source d) := by
  obtain ⟨d, failed, fault⟩ := twice
  have same : Reader.run source.toList.length (.ofList Options.default.ignoreBlanks source.toList) = .error d := failed
  refine ⟨d, fault, ?_⟩
  unfold Regex.compile compileWith parse Regex.read
  simp only [same]

end

/-- The trees of wrapped patterns nest one level deeper than the patterns do. -/
theorem Wraps.nesting [Engine] {offset shift : Nat} {pieces : List Piece} {trees : List Tree}
    (wraps : Wraps offset shift pieces trees) (nonempty : pieces ≠ []) :
    Tree.nestingAll trees = (pieces.map (·.reading.tree.nesting)).foldr max 0 + 1 := by
  induction wraps with
  | nil => exact absurd rfl nonempty
  | @cons _ _ piece body pieces trees alike _ rest ih =>
    rw [Tree.nestingAll, Tree.nesting, ← Tree.nesting_like alike, List.map_cons, List.foldr_cons]
    cases pieces with
    | nil =>
      cases rest
      simp [Tree.nestingAll]
    | cons next pieces =>
      rw [ih (List.cons_ne_nil _ _)]
      omega

end Lexicon.Regex

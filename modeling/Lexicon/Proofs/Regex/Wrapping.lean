import Lexicon.Proofs.Regex.Alternation
import Lexicon.Proofs.Regex.Reading.Branches
import Lexicon.Regex

/-! What patterns mean behind the start of the text: one alone, and several as branches of an alternation. -/
namespace Lexicon.Regex
namespace Expr

/-- An expression behind the start of the text. -/
def behindStart (e : Expr) : Expr := seqAll [look .startText, e]

theorem behindStart_cases {e : Expr} (normal : e.Normal) :
    (e = empty ∧ e.behindStart = look .startText) ∨ e.behindStart = seq (look .startText) e := by
  have joined : e.behindStart = chain (look .startText :: e.parts) := by simp [behindStart, seqAll, parts]
  rw [joined]
  cases split : e.parts with
  | nil =>
    rw [Normal, split] at normal
    exact .inl ⟨normal.symm, rfl⟩
  | cons part rest =>
    right
    rw [chain, ← split, normal]
    simp

theorem behindStart_anchored {e : Expr} (normal : e.Normal) : e.behindStart.isAnchored = true := by
  rcases behindStart_cases normal with ⟨-, alone⟩ | sequence
  · rw [alone]
    rfl
  · rw [sequence]
    rfl

/-- Behind the start of the text a search from the start of a text goes on as without it. -/
theorem matchHere_behindStart {e : Expr} (normal : e.Normal) (rest : List Char) :
    (matchHere e.behindStart.program none rest).map Thread.outcome =
      (matchHere e.program none rest).map Thread.outcome := by
  rcases behindStart_cases normal with ⟨rfl, alone⟩ | sequence
  · have first : matchHere (look .startText).program none rest = some ⟨1, none, rest, 0, []⟩ :=
      start_explores rfl (.accept (by simp [Thread.entry]) rfl)
    have second : matchHere empty.program none rest = some ⟨1, none, rest, 0, []⟩ :=
      matchHere_eq (.follow (by simp) (show empty.program[0]? = some (.jump 1) from rfl) (by simp)
        (.accept (by simp [Thread.entry]) rfl))
    rw [alone, first, second]
  · rw [sequence, matchHere_start]

theorem wrapped_atomic (branches : List (Nat × Expr)) : (wrapped branches).Atomic := by
  match branches with
  | [] | [_] | _ :: _ :: _ => rfl

/-- Groups are neither put together nor share anything that could be put in front of them. -/
theorem altAll_captures (branches : List (Nat × Expr)) :
    altAll (branches.map fun branch => capture branch.1 branch.2) = wrapped branches := by
  have flat : (branches.map fun branch => capture branch.1 branch.2).flatMap Expr.branches =
      branches.map fun branch => capture branch.1 branch.2 := by
    rw [List.flatMap_map]
    exact List.flatMap_pure_eq_map _ branches
  rw [altAll, flat, if_neg, join, if_neg]
  · rfl
  · rintro ⟨several, merged⟩
    cases branches with
    | nil => simp at several
    | cons first rest => simp [isSingle, isClass] at merged
  · rintro ⟨several, longer, -⟩
    cases branches with
    | nil => simp at several
    | cons first rest => simp [parts, gather] at longer

end Expr

section
variable {source : String} {expr : Expr}

/-- A search that can only succeed at the start tries nothing else. -/
theorem find_anchored {re : Regex} (anchored : re.expr.isAnchored = true) (rest : List Char) :
    re.find rest = (matchHere re.program none rest).map fun t => ⟨0, t.taken, t.groups⟩ := by
  unfold find search
  rw [anchored]
  cases matchHere re.program none rest with
  | some t => rfl
  | none => cases rest <;> rfl

theorem find_behindStart (normal : expr.Normal) (rest : List Char) :
    (ofExpr source expr.behindStart).find rest =
      (matchHere expr.program none rest).map fun t => ⟨0, t.taken, t.groups⟩ := by
  have outcome := congrArg (Option.map fun found => Match.mk 0 found.1 found.2) (Expr.matchHere_behindStart normal rest)
  rw [Option.map_map, Option.map_map] at outcome
  exact (find_anchored (Expr.behindStart_anchored normal) rest).trans outcome

end

section
variable [Engine]

/-- A pattern whose tree is another one with its groups renumbered means the same, with the groups renumbered. -/
theorem Tree.lower_like {number : Nat → Nat} (injective : Function.Injective number) {flags after : Flags} {e : Expr}
    {tree body : Tree} (alike : tree.shape number = body.shape id) (lowered : tree.lower flags = .ok (e, after)) :
    body.lower flags = .ok (e.renumber number, after) := by
  have own := tree.lower_shape injective flags
  have other := body.lower_shape Function.injective_id flags
  rw [lowered, alike] at own
  rcases own.of_map with ⟨_, _, _, failed⟩ | ⟨meaning, found, same⟩
  · simp at failed
  · cases same
    rw [found] at other
    rcases other.of_map with ⟨_, _, failed, _⟩ | ⟨meaning, same, found⟩
    · simp at failed
    · rw [found]
      simp only [renumbered, Expr.renumber_id, Except.ok.injEq, Prod.mk.injEq] at same
      rw [same.1, same.2]

namespace Piece

/-- The meanings of patterns in groups of their own, with the numbers of these groups, from a number of groups
before. -/
def branches : (shift : Nat) → List Piece → List (Nat × Expr)
  | _, [] => []
  | shift, piece :: rest => (shift + 1, piece.expr.renumber (· + (shift + 1))) ::
      branches (shift + 1 + piece.reading.captures) rest

/-- How many groups are in front of a pattern, those around the patterns before it included. -/
def groupsBefore (shift : Nat) (pieces : List Piece) (index : Nat) : Nat :=
  shift + ((pieces.take index).map fun piece => piece.reading.captures + 1).sum

theorem groupsBefore_succ (shift : Nat) {pieces : List Piece} {index : Nat} {piece : Piece}
    (found : pieces[index]? = some piece) : groupsBefore shift pieces (index + 1) =
      groupsBefore shift pieces index + (piece.reading.captures + 1) := by
  rw [groupsBefore, groupsBefore, List.take_add_one, found, List.map_append, List.sum_append, Nat.add_assoc]
  rfl

theorem groupsBefore_le (shift : Nat) (pieces : List Piece) {index later : Nat} (further : index ≤ later) :
    groupsBefore shift pieces index ≤ groupsBefore shift pieces later := by
  induction later with
  | zero => rw [Nat.le_zero.mp further]
  | succ later ih =>
    rcases Nat.le_succ_iff.mp further with before | rfl
    · refine Nat.le_trans (ih before) ?_
      cases found : pieces[later]? with
      | none => rw [groupsBefore, groupsBefore, List.take_add_one, found, Option.toList_none, List.append_nil]
      | some piece =>
        rw [groupsBefore_succ shift found]
        exact Nat.le_add_right _ _
    · exact Nat.le_refl _

theorem branches_getElem? (shift : Nat) (pieces : List Piece) (index : Nat) : (branches shift pieces)[index]? =
    pieces[index]?.map fun piece => (groupsBefore shift pieces index + 1,
      piece.expr.renumber (· + (groupsBefore shift pieces index + 1))) := by
  induction pieces generalizing shift index with
  | nil => rfl
  | cons piece pieces ih =>
    cases index with
    | zero => rfl
    | succ index =>
      have before : groupsBefore (shift + 1 + piece.reading.captures) pieces index =
          groupsBefore shift (piece :: pieces) (index + 1) := by
        simp only [groupsBefore, List.take_succ_cons, List.map_cons, List.sum_cons]
        omega
      rw [branches, List.getElem?_cons_succ, List.getElem?_cons_succ, ih, before]

theorem normal (piece : Piece) : piece.expr.Normal := piece.reading.tree.lower_normal piece.lowered

/-- The numbers of a pattern's groups are at least one and at most their count. -/
theorem groups_bounds (piece : Piece) {group : Nat} (member : group ∈ piece.expr.groups) :
    1 ≤ group ∧ group ≤ piece.reading.captures := by
  have kept := (piece.reading.tree.lower_groups piece.lowered).subset member
  rw [read_groups piece.read, List.mem_range'_1] at kept
  omega

section
variable {shift index : Nat} {pieces : List Piece} {piece : Piece} {rest : List Char} {t : Thread}

/-- The groups of a match are the one around the pattern and groups of the pattern. -/
theorem match_bounds (found : pieces[index]? = some piece)
    (matched : matchHere (piece.expr.renumber (· + (groupsBefore shift pieces index + 1))).program none rest = some t)
    {group : Nat} (member : group ∈ (groupsBefore shift pieces index + 1) :: t.groups) :
    groupsBefore shift pieces index + 1 ≤ group ∧ group ≤ groupsBefore shift pieces (index + 1) := by
  rw [groupsBefore_succ shift found]
  rcases List.mem_cons.mp member with same | inner
  · omega
  · have own := matchHere_groups matched inner
    rw [Expr.groups_renumber, List.mem_map] at own
    obtain ⟨alone, among, same⟩ := own
    have within := piece.groups_bounds among
    omega

/-- Of the groups around the patterns, only the one around the pattern that matches takes part in a match. -/
theorem wrapper_mem {other : Nat} (found : pieces[index]? = some piece) (inside : other < pieces.length)
    (matched : matchHere (piece.expr.renumber (· + (groupsBefore shift pieces index + 1))).program none rest = some t) :
    groupsBefore shift pieces other + 1 ∈ (groupsBefore shift pieces index + 1) :: t.groups ↔ other = index := by
  constructor
  · intro member
    have bounds := match_bounds found matched member
    rcases Nat.lt_trichotomy other index with before | same | behind
    · have below := groupsBefore_le shift pieces (show other + 1 ≤ index from before)
      rw [groupsBefore_succ shift (List.getElem?_eq_getElem inside)] at below
      omega
    · exact same
    · have above := groupsBefore_le shift pieces (show index + 1 ≤ other from behind)
      omega
  · rintro rfl
    exact List.mem_cons_self

end

end Piece

/-- The wrapped trees mean the branches, and leave the flags as they are. -/
theorem Wraps.lower {offset shift : Nat} {pieces : List Piece} {trees : List Tree}
    (wraps : Wraps offset shift pieces trees) : Tree.lowerAll .initial trees =
      .ok ((Piece.branches shift pieces).map fun branch => .capture branch.1 branch.2, .initial) := by
  induction wraps with
  | nil => rfl
  | @cons offset shift piece body pieces trees alike _ _ ih =>
    have meaning := Tree.lower_like (fun _ _ => Nat.add_right_cancel) alike piece.lowered
    simp only [Tree.lowerAll, Tree.lower, GroupKind.inner, meaning, ih, GroupKind.wrap, Piece.branches, List.map_cons]

/-- The group around a pattern is the one that opens where the pattern's parenthesis stands. -/
theorem Wraps.wrapper {offset shift : Nat} {pieces : List Piece} {trees : List Tree}
    (wraps : Wraps offset shift pieces trees) {index : Nat} (inside : index < pieces.length) :
    (Tree.openingsAll trees).lookup (offset + ((pieces.take index).map fun piece => piece.wrapped.length + 1).sum) =
      some (Piece.groupsBefore shift pieces index + 1) := by
  induction wraps generalizing index with
  | nil => simp at inside
  | @cons offset shift piece body pieces trees _ within _ ih =>
    have openings : Tree.openingsAll (Tree.group ⟨offset, offset + piece.wrapped.length⟩ (.capture (shift + 1)) body ::
        trees) = (offset, shift + 1) :: (body.openings ++ Tree.openingsAll trees) := rfl
    cases index with
    | zero => simp [openings, Piece.groupsBefore]
    | succ index =>
      have later := ih (Nat.lt_of_succ_lt_succ inside)
      simp only [Piece.groupsBefore, List.take_succ_cons, List.map_cons, List.sum_cons] at later ⊢
      generalize ((pieces.take index).map fun piece => piece.wrapped.length + 1).sum = distance at later ⊢
      have position : offset + (piece.wrapped.length + 1 + distance) =
          offset + piece.wrapped.length + 1 + distance := by omega
      have first : (offset + piece.wrapped.length + 1 + distance == offset) = false := by
        rw [beq_eq_false_iff_ne]
        omega
      have inner : body.openings.lookup (offset + piece.wrapped.length + 1 + distance) = none := by
        rw [List.lookup_eq_none_iff]
        intro opening member
        have before := within opening member
        rw [bne_iff_ne]
        omega
      rw [openings, position, List.lookup_cons, first, List.lookup_append, inner, Option.none_or, later,
        Option.some.injEq]
      omega

/-- What the wrapped trees hold is nested no deeper than they are. -/
theorem Wraps.shallow {offset shift depth : Nat} {pieces : List Piece} {trees : List Tree}
    (wraps : Wraps offset shift pieces trees) (limited : Tree.anyTooDeep depth trees = none) {piece : Piece}
    (member : piece ∈ pieces) : piece.reading.tree.tooDeep depth = none := by
  induction wraps with
  | nil => simp at member
  | @cons offset shift first body pieces trees alike _ _ ih =>
    rw [Tree.anyTooDeep, Option.or_eq_none_iff] at limited
    rcases List.mem_cons.mp member with rfl | later
    · have inner := limited.1
      rw [Tree.tooDeep] at inner
      split at inner
      · simp at inner
      · rw [Tree.tooDeep_none, ← Tree.nesting_like alike] at inner
        exact (Tree.tooDeep_none _ _).mpr (inner.outward (Nat.le_succ depth))
    · exact ih limited.2 later

theorem Wraps.ofBranches {offset shift : Nat} {pieces : List Piece} {trees : List Tree}
    (wraps : Wraps offset shift pieces trees) (span : Span) : (Tree.ofBranches span trees).lower .initial =
      .ok (.wrapped (Piece.branches shift pieces), .initial) := by
  have lowered := wraps.lower
  by_cases single : trees.length = 1
  · cases wraps with
    | nil => simp at single
    | @cons _ _ piece body pieces trees alike _ rest =>
      cases rest with
      | cons => simp at single
      | nil =>
        have meaning := Tree.lower_like (fun _ _ => Nat.add_right_cancel) alike piece.lowered
        simp only [Tree.ofBranches, Tree.lower, GroupKind.inner, meaning]
        rfl
  · rw [Tree.ofBranches_several span single, Tree.lower, lowered]
    simp only [Expr.altAll_captures]

/-- A group behind the start of the text. -/
theorem lower_behindStart {whole outer : Span} {body : Tree} {e : Expr} {after : Flags}
    (lowered : body.lower .initial = .ok (e, after)) :
    (Tree.concat whole [.anchor ⟨0, 2⟩ .startText, .group outer (.plain []) body]).lower .initial =
      .ok (e.behindStart, .initial) := by
  have inside : (GroupKind.plain []).inner .initial = .initial := rfl
  simp only [Tree.lower, Tree.lowerAll, inside, lowered]
  rfl

/-- A pattern in a group behind the start of the text means what it means alone, behind the start of the text. -/
theorem Piece.lower_anchored (piece : Piece) {whole outer : Span} {body : Tree}
    (alike : piece.reading.tree.shape id = body.shape id) :
    (Tree.concat whole [.anchor ⟨0, 2⟩ .startText, .group outer (.plain []) body]).lower .initial =
      .ok (piece.expr.behindStart, .initial) := by
  have meaning := Tree.lower_like Function.injective_id alike piece.lowered
  rw [Expr.renumber_id] at meaning
  exact lower_behindStart meaning

section
variable {source : String} {re : Regex} {expr : Expr}

/-- What compiling a pattern leads to. -/
theorem compile_ok (compiled : compile source = .ok re) : ∃ reading expr flags,
    read false source.toList = .ok reading ∧ reading.tree.lower .initial = .ok (expr, flags) ∧
      Engine.weight expr ≤ sizeLimit ∧ re = ofExpr source expr := by
  unfold compile compileWith parse at compiled
  cases found : read Options.default.ignoreBlanks source.toList with
  | error e => simp [found] at compiled
  | ok reading =>
    cases lowered : reading.tree.lower Options.default.flags with
    | error e => simp [found, lowered, Except.map] at compiled
    | ok meaning =>
      simp only [found, lowered, Except.map] at compiled
      split at compiled
      · simp at compiled
      · next small =>
        cases compiled
        exact ⟨reading, meaning.1, meaning.2, found, lowered, Nat.not_lt.mp small, rfl⟩

/-- What is read and has a meaning compiles, unless that is too large. -/
theorem compile_eq {reading : Reading} {flags : Flags} (found : read false source.toList = .ok reading)
    (lowered : reading.tree.lower .initial = .ok (expr, flags)) :
    compile source =
      if sizeLimit < Engine.weight expr then .error (.tooLarge sizeLimit) else .ok (ofExpr source expr) := by
  have same : read Options.default.ignoreBlanks source.toList = .ok reading := found
  have meaning : reading.tree.lower Options.default.flags = .ok (expr, flags) := lowered
  unfold compile compileWith parse
  simp only [same, meaning, Except.map]

theorem compile_of {reading : Reading} {flags : Flags} (found : read false source.toList = .ok reading)
    (lowered : reading.tree.lower .initial = .ok (expr, flags)) (small : Engine.weight expr ≤ sizeLimit) :
    compile source = .ok (ofExpr source expr) := by
  rw [compile_eq found lowered, if_neg (Nat.not_lt.mpr small)]

/-- A pattern that compiles alone. -/
theorem Piece.ofCompiled (compiled : compile source = .ok re) :
    ∃ piece : Piece, piece.text = source.toList ∧ re = ofExpr source piece.expr := by
  obtain ⟨reading, expr, flags, found, lowered, -, same⟩ := compile_ok compiled
  exact ⟨⟨source.toList, reading, found, expr, flags, lowered⟩, rfl, same⟩

end

end

end Lexicon.Regex

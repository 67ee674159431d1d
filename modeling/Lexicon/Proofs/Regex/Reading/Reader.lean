import Lexicon.Regex.Reader
import Lexicon.Proofs.Regex.Reading.Bracket
import Lexicon.Proofs.Regex.Reading.Header

/-! A pattern, read alone and inside of a group. The reader inside has more groups open, has counted more groups
and knows more names; what it reads is the same but for stretches and for the numbers of groups. -/
namespace Lexicon.Regex
open Surroundings (Fits)

theorem Tree.ofParts_shape (number : Nat → Nat) (span : Span) (parts : List Tree) :
    (Tree.ofParts span parts).shape number = Tree.ofParts (.point 0) (parts.map (Tree.shape number)) := by
  match parts with
  | [] | [_] => rfl
  | _ :: _ :: _ =>
    rw [ofParts, shape, shapeAll_eq]
    · rfl
    all_goals simp

theorem Primitive.toTree_like {p q : Primitive} (alike : p.Like q) (number other : Nat → Nat) :
    p.toTree.shape number = q.toTree.shape other := by
  have shaped (p : Primitive) (number : Nat → Nat) : p.toTree.shape number = p.shape.toTree := by
    cases p <;> rfl
  rw [shaped, shaped, show p.shape = q.shape from alike]

/-- An open group without its stretches. -/
def OpenGroup.shape (number : Nat → Nat) (g : OpenGroup) : OpenGroup where
  offset := 0
  kind := g.kind.shape number
  verbose := g.verbose
  parts := g.parts.map (Tree.shape number)
  start := 0
  branches := g.branches.map (Tree.shape number)
  branchesStart := 0

namespace Reader

/-- The open brackets without their stretches. -/
def bracketShape (r : Reader) : Option (Bracket × List Bracket) :=
  r.bracket.map fun brackets => (brackets.1.shape, brackets.2.map Bracket.shape)

/-- What surrounds a reader inside of a group: the text behind it, how many groups opened before it, the names
before it, and the groups around it. -/
structure Frame where
  surroundings : Surroundings
  shift : Nat
  names : List String
  groups : List OpenGroup

/-- The second reader is the first one inside of a frame. -/
structure Mirrors (frame : Frame) (r R : Reader) : Prop where
  tape : Inside frame.surroundings r.tape R.tape
  verbose : R.verbose = r.verbose
  captures : R.captures = r.captures + frame.shift
  names : R.names.map (·.1) = r.names.map (·.1) ++ frame.names
  parts : r.parts.map (Tree.shape (· + frame.shift)) = R.parts.map (Tree.shape id)
  branches : r.branches.map (Tree.shape (· + frame.shift)) = R.branches.map (Tree.shape id)
  groups : ∃ own, R.groups = own ++ frame.groups ∧
    r.groups.map (OpenGroup.shape (· + frame.shift)) = own.map (OpenGroup.shape id)
  bracket : r.bracketShape = R.bracketShape

variable {frame : Frame} {r R r' : Reader} {t T : Tape}

theorem branch_shape (number : Nat → Nat) (r : Reader) (stop : Nat) :
    (r.branch stop).shape number = Tree.ofParts (.point 0) (r.parts.map (Tree.shape number)).reverse := by
  rw [branch, Tree.ofParts_shape, List.map_reverse]

theorem Mirrors.branch (mirrors : Mirrors frame r R) (stop stopInside : Nat) :
    (r.branch stop).shape (· + frame.shift) = (R.branch stopInside).shape id := by
  rw [branch_shape, branch_shape, mirrors.parts]

theorem contents_shape (number : Nat → Nat) (r : Reader) (stop : Nat) :
    (r.contents stop).shape number =
      match r.branches.map (Tree.shape number) with
      | [] => (r.branch stop).shape number
      | branches => .alternation (.point 0) (branches.reverse ++ [(r.branch stop).shape number]) := by
  unfold contents
  cases r.branches with
  | nil => rfl
  | cons first rest =>
    simp only [Tree.shape, Tree.shapeAll_eq, List.map_append, List.map_reverse, List.map_cons, List.map_nil]

theorem Mirrors.contents (mirrors : Mirrors frame r R) (stop stopInside : Nat) :
    (r.contents stop).shape (· + frame.shift) = (R.contents stopInside).shape id := by
  rw [contents_shape, contents_shape, mirrors.branches, mirrors.branch stop stopInside]

theorem Mirrors.push (mirrors : Mirrors frame r R) {tree treeInside : Tree}
    (alike : tree.shape (· + frame.shift) = treeInside.shape id) (inside : Inside frame.surroundings t T) :
    Mirrors frame (r.push tree t) (R.push treeInside T) where
  tape := inside
  verbose := mirrors.verbose
  captures := mirrors.captures
  names := mirrors.names
  parts := by rw [Reader.push, Reader.push, List.map_cons, List.map_cons, alike, mirrors.parts]
  branches := mirrors.branches
  groups := mirrors.groups
  bracket := mirrors.bracket

theorem Mirrors.nextBranch (mirrors : Mirrors frame r R) (inside : Inside frame.surroundings t T)
    (more : t.rest ≠ []) : Mirrors frame (r.nextBranch t) (R.nextBranch T) where
  tape := inside.next more
  verbose := mirrors.verbose
  captures := mirrors.captures
  names := mirrors.names
  parts := rfl
  branches := by
    rw [Reader.nextBranch, Reader.nextBranch, List.map_cons, List.map_cons, mirrors.branches,
      mirrors.branch t.offset T.offset]
  groups := mirrors.groups
  bracket := mirrors.bracket

theorem Mirrors.openGroup (mirrors : Mirrors frame r R) {kind kindInside : GroupKind}
    (alike : kind.shape (· + frame.shift) = kindInside.shape id) (offset offsetInside : Nat)
    {verbose verboseInside : Bool} (mode : verboseInside = verbose) (inside : Inside frame.surroundings t T) :
    Mirrors frame (r.openGroup offset kind verbose t) (R.openGroup offsetInside kindInside verboseInside T) where
  tape := inside
  verbose := mode
  captures := mirrors.captures
  names := mirrors.names
  parts := rfl
  branches := rfl
  groups := by
    obtain ⟨own, whole, shaped⟩ := mirrors.groups
    refine ⟨_ :: own, by rw [Reader.openGroup, whole]; rfl, ?_⟩
    rw [Reader.openGroup, List.map_cons, List.map_cons, shaped]
    simp only [OpenGroup.shape, alike, mirrors.parts, mirrors.branches, mirrors.verbose]
  bracket := mirrors.bracket

/-- A change of mode inside and alone keeps the correspondence. -/
theorem Mirrors.mode (mirrors : Mirrors frame r R) {verbose verboseInside : Bool}
    (mode : verboseInside = verbose) : Mirrors frame { r with verbose } { R with verbose := verboseInside } where
  tape := mirrors.tape
  verbose := mode
  captures := mirrors.captures
  names := mirrors.names
  parts := mirrors.parts
  branches := mirrors.branches
  groups := mirrors.groups
  bracket := mirrors.bracket

/-- Counting one more group, perhaps with a name, keeps the correspondence. -/
theorem Mirrors.count (mirrors : Mirrors frame r R) (names namesInside : List (String × Span))
    (alike : namesInside.map (·.1) = names.map (·.1) ++ frame.names) :
    Mirrors frame { r with captures := r.captures + 1, names }
      { R with captures := R.captures + 1, names := namesInside } where
  tape := mirrors.tape
  verbose := mirrors.verbose
  captures := by
    simp only [mirrors.captures]
    omega
  names := alike
  parts := mirrors.parts
  branches := mirrors.branches
  groups := mirrors.groups
  bracket := mirrors.bracket

theorem lookup_none {names : List (String × Span)} {name : String} :
    names.lookup name = none ↔ name ∉ names.map (·.1) := by
  rw [List.lookup_eq_none_iff]
  constructor
  · intro absent member
    obtain ⟨entry, present, same⟩ := List.mem_map.mp member
    simpa [same] using absent entry present
  · intro absent entry present
    have differs : name ≠ entry.1 := by
      rintro rfl
      exact absent (List.mem_map.mpr ⟨entry, present, rfl⟩)
    simpa using differs

/-- A fault with a name that is declared around a pattern, and by the reader of the pattern as well. -/
def Clashes {α : Type} (frame : Frame) (r : Reader) (result : Except Diagnostic α) : Prop :=
  (∃ name ∈ frame.names, name ∈ r.names.map (·.1)) ∧ ∃ e, result = .error e ∧ e.fault = .groupNameDuplicate

/-- What a step inside comes to if the step alone succeeds: the same step, or a name that was taken before. -/
def Outcome (frame : Frame) (r' : Reader) (inside : Except Diagnostic Reader) : Prop :=
  (∃ R', inside = .ok R' ∧ Mirrors frame r' R') ∨ Clashes frame r' inside

theorem Mirrors.openParenthesis (mirrors : Mirrors frame r R) (inside : Inside frame.surroundings t T)
    (more : t.rest ≠ []) (opened : r.openParenthesis t = .ok r') (fits : Fits frame.surroundings r'.tape) :
    Outcome frame r' (R.openParenthesis T) := by
  have sameMode {items again : FlagItems} (alike : items.shape = again.shape) :
      (again.setting .ignoreBlanks).getD R.verbose = (items.setting .ignoreBlanks).getD r.verbose := by
    rw [← FlagItems.setting_shape again, ← alike, FlagItems.setting_shape, mirrors.verbose]
  unfold Reader.openParenthesis at opened ⊢
  split at opened
  · simp at opened
  · next t' found =>
    cases opened
    obtain ⟨header, T', foundInside, alike, placed⟩ := Header.read_agrees inside more found fits
    cases header <;> simp only [Header.Like, Header.shape, reduceCtorEq] at alike
    rw [← mirrors.verbose] at foundInside
    simp only [foundInside]
    have kind : (GroupKind.capture (r.captures + 1)).shape (· + frame.shift) =
        (GroupKind.capture (R.captures + 1)).shape id := by
      simp only [GroupKind.shape, id, mirrors.captures, Nat.add_right_comm]
    exact .inl ⟨_, rfl, (mirrors.count _ _ mirrors.names).openGroup kind _ _ mirrors.verbose placed⟩
  · next name span t' found =>
    split at opened
    · simp at opened
    · next fresh =>
      cases opened
      obtain ⟨header, T', foundInside, alike, placed⟩ := Header.read_agrees inside more found fits
      cases header <;> simp only [Header.Like, Header.shape, reduceCtorEq, Header.named.injEq, and_true] at alike
      subst alike
      rw [← mirrors.verbose] at foundInside
      simp only [foundInside]
      cases taken : R.names.lookup name with
      | some first =>
        refine .inr ⟨⟨name, ?_, List.mem_cons_self⟩, _, rfl, rfl⟩
        have present : name ∈ R.names.map (·.1) := by
          apply Decidable.of_not_not
          rw [← lookup_none]
          simp [taken]
        rw [mirrors.names] at present
        exact (List.mem_append.mp present).resolve_left (lookup_none.mp fresh)
      | none =>
        have kind : (GroupKind.named (r.captures + 1) name).shape (· + frame.shift) =
            (GroupKind.named (R.captures + 1) name).shape id := by
          simp only [GroupKind.shape, id, mirrors.captures, Nat.add_right_comm]
        have names (spanInside : Span) : ((name, spanInside) :: R.names).map (·.1) =
            ((name, span) :: r.names).map (·.1) ++ frame.names := by
          rw [List.map_cons, List.map_cons, mirrors.names]
          rfl
        exact .inl ⟨_, rfl, (mirrors.count _ _ (names _)).openGroup kind _ _ mirrors.verbose placed⟩
  · next items t' found =>
    cases opened
    obtain ⟨header, T', foundInside, alike, placed⟩ := Header.read_agrees inside more found fits
    cases header <;> simp only [Header.Like, Header.shape, reduceCtorEq, Header.plain.injEq] at alike
    rw [← mirrors.verbose] at foundInside
    simp only [foundInside]
    rename_i again
    have kind : (GroupKind.plain items).shape (· + frame.shift) = (GroupKind.plain again).shape id :=
      congrArg GroupKind.plain alike
    exact .inl ⟨_, rfl, mirrors.openGroup kind _ _ (sameMode alike) placed⟩
  · next items t' found =>
    cases opened
    obtain ⟨header, T', foundInside, alike, placed⟩ := Header.read_agrees inside more found fits
    cases header <;> simp only [Header.Like, Header.shape, reduceCtorEq, Header.setFlags.injEq] at alike
    rw [← mirrors.verbose] at foundInside
    simp only [foundInside]
    exact .inl ⟨_, rfl, (mirrors.mode (sameMode alike)).push (by simp only [Tree.shape, alike]) placed⟩

theorem Mirrors.closeParenthesis (mirrors : Mirrors frame r R) (inside : Inside frame.surroundings t T)
    (more : t.rest ≠ []) (closed : r.closeParenthesis t = .ok r') :
    ∃ R', R.closeParenthesis T = .ok R' ∧ Mirrors frame r' R' := by
  obtain ⟨own, whole, shaped⟩ := mirrors.groups
  unfold Reader.closeParenthesis at closed ⊢
  split at closed
  · simp at closed
  · next g groups opened =>
    cases closed
    cases own with
    | nil => simp [opened] at shaped
    | cons g' own =>
      rw [opened, List.map_cons, List.map_cons, List.cons.injEq] at shaped
      obtain ⟨same, others⟩ := shaped
      have kind : g.kind.shape (· + frame.shift) = g'.kind.shape id := congrArg OpenGroup.kind same
      have verbose : g.verbose = g'.verbose := by
        simpa only [OpenGroup.shape] using congrArg OpenGroup.verbose same
      have parts : g.parts.map (Tree.shape (· + frame.shift)) = g'.parts.map (Tree.shape id) :=
        congrArg OpenGroup.parts same
      have branches : g.branches.map (Tree.shape (· + frame.shift)) = g'.branches.map (Tree.shape id) :=
        congrArg OpenGroup.branches same
      rw [whole]
      refine ⟨_, rfl, inside.next more, verbose.symm, mirrors.captures, mirrors.names, ?_, branches,
        ⟨own, rfl, others⟩, mirrors.bracket⟩
      rw [List.map_cons, List.map_cons, parts, Tree.shape, Tree.shape, kind, mirrors.contents t.offset T.offset]

theorem Mirrors.repeatLast (mirrors : Mirrors frame r R) (x : Char) (inside : Inside frame.surroundings t T)
    (more : t.rest ≠ []) (repeated : r.repeatLast x t = .ok r') (fits : Fits frame.surroundings r'.tape) :
    ∃ R', R.repeatLast x T = .ok R' ∧ Mirrors frame r' R' := by
  unfold Reader.repeatLast at repeated
  split at repeated
  · simp at repeated
  · simp at repeated
  · simp at repeated
  · next last parts noFlags noEmpty read =>
    split at repeated
    · simp at repeated
    · next count greedy t' found =>
      cases repeated
      obtain ⟨T', foundInside, placed⟩ := Count.read_inside x inside more found fits
      rw [← mirrors.verbose] at foundInside
      have shaped := mirrors.parts
      rw [read] at shaped
      cases readInside : R.parts with
      | nil => simp [readInside] at shaped
      | cons last' parts' =>
        rw [readInside, List.map_cons, List.map_cons, List.cons.injEq] at shaped
        obtain ⟨same, others⟩ := shaped
        have result : R.repeatLast x T = .ok { R with
            tape := T', parts := .repetition ⟨last'.span.start, T'.offset⟩ count greedy last' :: parts' } := by
          unfold Reader.repeatLast
          split
          · next none => simp [none] at readInside
          · next flags =>
            rw [flags, List.cons.injEq] at readInside
            obtain ⟨rfl, -⟩ := readInside
            cases last <;> simp_all [Tree.shape]
          · next empty =>
            rw [empty, List.cons.injEq] at readInside
            obtain ⟨rfl, -⟩ := readInside
            cases last <;> simp_all [Tree.shape]
          · next again =>
            rw [again, List.cons.injEq] at readInside
            obtain ⟨rfl, rfl⟩ := readInside
            rw [foundInside]
        refine ⟨_, result, placed, mirrors.verbose, mirrors.captures, mirrors.names, ?_, mirrors.branches,
          mirrors.groups, mirrors.bracket⟩
        rw [List.map_cons, List.map_cons, Tree.shape, Tree.shape, same, others]

/-- Brackets that are the same but for their stretches keep the correspondence. -/
theorem Mirrors.brackets (mirrors : Mirrors frame r R) {brackets others : Option (Bracket × List Bracket)}
    (alike : brackets.map (fun b => (b.1.shape, b.2.map Bracket.shape)) =
      others.map fun b => (b.1.shape, b.2.map Bracket.shape))
    (inside : Inside frame.surroundings t T) :
    Mirrors frame { r with bracket := brackets, tape := t } { R with bracket := others, tape := T } where
  tape := inside
  verbose := mirrors.verbose
  captures := mirrors.captures
  names := mirrors.names
  parts := mirrors.parts
  branches := mirrors.branches
  groups := mirrors.groups
  bracket := alike

/-- A part outside of brackets is read inside as it is read alone, unless its name was taken before. -/
theorem Mirrors.part (mirrors : Mirrors frame r R) (x : Char) (inside : Inside frame.surroundings t T)
    (more : t.rest ≠ []) (read : r.part x t = .ok r') (fits : Fits frame.surroundings r'.tape) :
    Outcome frame r' (R.part x T) := by
  unfold Reader.part at read ⊢
  split at read
  · exact mirrors.openParenthesis inside more read fits
  · exact .inl (mirrors.closeParenthesis inside more read)
  · cases read
    exact .inl ⟨_, rfl, mirrors.nextBranch inside more⟩
  · cases found : Bracket.read r.verbose t with
    | error e => simp [found, Except.map] at read
    | ok opened =>
      obtain ⟨b, t'⟩ := opened
      simp only [found, Except.map, Except.ok.injEq] at read
      subst read
      obtain ⟨b', T', foundInside, alike, placed⟩ := Bracket.read_agrees inside more found fits
      rw [← mirrors.verbose] at foundInside
      simp only [foundInside, Except.map]
      refine .inl ⟨_, rfl, mirrors.brackets ?_ placed⟩
      simp only [Option.map_some, List.map_nil, show b.shape = b'.shape from alike]
  iterate 4 exact .inl (mirrors.repeatLast _ inside more read fits)
  · cases found : readPrimitive r.verbose x t with
    | error e => simp [found, Except.map] at read
    | ok primitive =>
      obtain ⟨p, t'⟩ := primitive
      simp only [found, Except.map, Except.ok.injEq] at read
      subst read
      obtain ⟨q, T', foundInside, alike, placed⟩ := readPrimitive_agrees x inside more found fits
      rw [← mirrors.verbose] at foundInside
      simp only [foundInside, Except.map]
      exact .inl ⟨_, rfl, mirrors.push (Primitive.toTree_like alike _ _) placed⟩

/-- A step alone that reads a part is taken inside as well, unless a name was taken before. -/
theorem Mirrors.step (mirrors : Mirrors frame r R)
    (live : r.bracket ≠ none ∨ (r.tape.skipBlanks r.verbose).rest ≠ []) (stepped : r.step = .ok r')
    (fits : Fits frame.surroundings r'.tape) : Outcome frame r' R.step := by
  have brackets := mirrors.bracket
  unfold Reader.step at stepped ⊢
  split at stepped
  · next b outer opened =>
    cases openedInside : R.bracket with
    | none => simp [bracketShape, opened, openedInside] at brackets
    | some brackets' =>
      obtain ⟨b', outer'⟩ := brackets'
      simp only [bracketShape, opened, openedInside, Option.map_some, Option.some.injEq, Prod.mk.injEq] at brackets
      cases found : Bracket.step r.verbose b outer r.tape with
      | error e => simp [found, Except.map] at stepped
      | ok progress =>
        simp only [found, Except.map, Except.ok.injEq] at stepped
        have fitsProgress : Fits frame.surroundings progress.tape := by
          cases progress <;> (subst stepped; exact fits)
        obtain ⟨again, foundInside, alike⟩ :=
          Bracket.step_like mirrors.tape brackets.1 brackets.2 found fitsProgress
        rw [← mirrors.verbose] at foundInside
        simp only [foundInside, Except.map]
        left
        cases progress with
        | inside b1 outer1 t1 =>
          cases again with
          | closed => exact alike.elim
          | inside b2 outer2 T1 =>
            subst stepped
            refine ⟨_, rfl, mirrors.brackets ?_ alike.2.2⟩
            simp only [Option.map_some, show b1.shape = b2.shape from alike.1, alike.2.1]
        | closed b1 t1 =>
          cases again with
          | inside => exact alike.elim
          | closed b2 T1 =>
            subst stepped
            have same : b1.shape = b2.shape := alike.1
            have negated : b1.negated = b2.negated := by
              simpa [Bracket.shape] using congrArg Bracket.negated same
            refine ⟨_, rfl, (mirrors.brackets rfl mirrors.tape).push ?_ alike.2⟩
            simp only [Tree.shape, negated, Bracket.body_shape, same]
  · next closed =>
    have none : R.bracket = none := by
      cases openedInside : R.bracket with
      | none => rfl
      | some => simp [bracketShape, closed, openedInside] at brackets
    have more : (r.tape.skipBlanks r.verbose).rest ≠ [] := live.resolve_left fun opened => opened closed
    have placed := mirrors.tape.skipBlanks (Surroundings.fits_of_rest more)
    cases left : (r.tape.skipBlanks r.verbose).rest with
    | nil => exact absurd left more
    | cons x rest =>
      simp only [left] at stepped
      simp only [none, mirrors.verbose, placed.cons left]
      exact mirrors.part x placed more stepped fits

theorem part_follows {x : Char} (read : r.part x t = .ok r') : t.next.Follows r'.tape := by
  unfold Reader.part at read
  split at read
  · unfold Reader.openParenthesis at read
    have header {h : Header} {t' : Tape} (found : Header.read r.verbose t = .ok (h, t')) : t.next.Follows t' :=
      (t.next.skipBlanks_follows r.verbose).trans (Header.read_follows _ _ found)
    split at read
    · simp at read
    · next found =>
      cases read
      exact header found
    · next found =>
      split at read
      · simp at read
      · cases read
        exact header found
    all_goals
      next found =>
      cases read
      exact header found
  · unfold Reader.closeParenthesis at read
    split at read
    · simp at read
    · cases read
      exact .refl _
  · cases read
    exact .refl _
  · cases found : Bracket.read r.verbose t with
    | error e => simp [found, Except.map] at read
    | ok opened =>
      simp only [found, Except.map, Except.ok.injEq] at read
      subst read
      exact Bracket.read_follows _ _ found
  iterate 4
    unfold Reader.repeatLast at read
    split at read
    iterate 3 simp at read
    split at read
    · simp at read
    · next found =>
      cases read
      exact Count.read_follows _ found
  · cases found : readPrimitive r.verbose x t with
    | error e => simp [found, Except.map] at read
    | ok primitive =>
      simp only [found, Except.map, Except.ok.injEq] at read
      subst read
      exact readPrimitive_follows _ _ _ found

/-- A step goes on, and passes over a character if one is left. -/
theorem step_follows (stepped : r.step = .ok r') :
    r.tape.Follows r'.tape ∧ (r.tape.rest ≠ [] → r'.tape.rest.length < r.tape.rest.length) := by
  have blanks := r.tape.skipBlanks_follows r.verbose
  have onward {t : Tape} (some : (r.tape.skipBlanks r.verbose).rest ≠ [])
      (behind : (r.tape.skipBlanks r.verbose).next.Follows t) :
      r.tape.Follows t ∧ (r.tape.rest ≠ [] → t.rest.length < r.tape.rest.length) :=
    ⟨(blanks.trans (Tape.next_follows _)).trans behind, fun _ => Nat.lt_of_le_of_lt behind.length_le
      (Nat.lt_of_lt_of_le (Tape.next_shorter some) blanks.length_le)⟩
  unfold Reader.step at stepped
  split at stepped
  · next b outer _ =>
    cases found : Bracket.step r.verbose b outer r.tape with
    | error e => simp [found, Except.map] at stepped
    | ok progress =>
      simp only [found, Except.map, Except.ok.injEq] at stepped
      obtain ⟨some, behind⟩ := Bracket.step_follows found
      have same : r'.tape = progress.tape := by
        cases progress <;> (subst stepped; rfl)
      rw [same]
      exact onward some behind
  · simp only at stepped
    split at stepped
    · next none =>
      cases stepped
      refine ⟨blanks, fun some => ?_⟩
      simp only [none, List.length_nil]
      exact List.length_pos_iff.mpr some
    · next left => exact onward (by simp [left]) (part_follows stepped)

end Reader
end Lexicon.Regex

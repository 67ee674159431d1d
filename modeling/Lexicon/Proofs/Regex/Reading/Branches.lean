import Lexicon.Proofs.Regex.Reading.Openings

/-! Patterns as the branches of an alternation behind the start of the text, each in a group of its own. -/
namespace Lexicon.Regex

/-- A pattern as it stands in a group: if it ends in a comment, a line feed closes the comment. -/
def closedText (pattern : List Char) (openComment : Bool) : List Char :=
  pattern ++ if openComment then ['\n'] else []

theorem closedText_tail (pattern after : List Char) (openComment : Bool) :
    closedText pattern openComment ++ ')' :: after =
      pattern ++ Surroundings.tail ⟨openComment, after⟩ false := by
  cases openComment <;> simp [closedText, Surroundings.tail]

/-- A question mark has nothing to repeat at the start of a pattern. -/
theorem read_head {pattern : List Char} {reading : Reading} (found : read false pattern = .ok reading) :
    pattern.head? ≠ some '?' := by
  intro question
  cases pattern with
  | nil => simp at question
  | cons first rest =>
    rw [List.head?_cons, Option.some.injEq] at question
    subst question
    obtain ⟨last, ran, -⟩ := read_ok found
    have stuck : (Reader.ofList false ('?' :: rest)).step = .error (.single .repetitionMissing (.point 0)) := rfl
    rw [Reader.runAll_error (by simp [Reader.ofList, Tape.ofList]) stuck] at ran
    simp at ran

theorem closedText_head {pattern : List Char} {reading : Reading} (found : read false pattern = .ok reading)
    (after : List Char) : (closedText pattern reading.openComment ++ ')' :: after).head? ≠ some '?' := by
  cases pattern with
  | nil => cases comment : reading.openComment <;> simp [closedText]
  | cons first rest => simpa [closedText] using read_head found

namespace Reader

/-- The fault that a name is declared twice. -/
def Duplicate {α : Type} (result : Except Diagnostic α) : Prop :=
  ∃ e, result = .error e ∧ e.fault = .groupNameDuplicate

/-- A reader with nothing read since the innermost group opened, outside of brackets and comments. -/
structure Fresh (R : Reader) : Prop where
  parts : R.parts = []
  branches : R.branches = []
  bracket : R.bracket = none
  verbose : R.verbose = false
  comment : R.tape.openComment = false

section
variable {R : Reader} {g : OpenGroup} {outer : List OpenGroup} {pattern after : List Char} {reading : Reading}

/-- A pattern that is read alone fills a group, unless it declares a name that was taken before. -/
theorem Fresh.encloses (fresh : R.Fresh) (around : R.groups = g :: outer)
    (found : read false pattern = .ok reading)
    (rest : R.tape.rest = closedText pattern reading.openComment ++ ')' :: after) :
    (∃ R', Reaches R R' ∧ Closed ⟨⟨reading.openComment, after⟩, R.captures, R.names.map (·.1), g :: outer⟩ g outer
        reading.tree reading.captures reading.tree.names.reverse R') ∨
      (∃ name ∈ R.declaredNames, name ∈ reading.tree.names) ∧ Duplicate R.runAll := by
  obtain ⟨last, ran, bracket, groups, rfl, -⟩ := read_ok found
  obtain ⟨alone, ended⟩ := runAll_ok ran
  have names : (last.contents last.tape.offset).names = last.declaredNames :=
    (((declared_ofList _ _).reaches alone).contents groups _).symm
  have mirrors : Mirrors ⟨⟨last.tape.openComment, after⟩, R.captures, R.names.map (·.1), g :: outer⟩
      (.ofList false pattern) R := by
    constructor
    · exact ⟨rest.trans (closedText_tail _ _ _), fresh.comment, by simp [ofList, Tape.ofList]⟩
    · exact fresh.verbose
    · exact (Nat.zero_add _).symm
    · rfl
    · rw [fresh.parts]
      rfl
    · rw [fresh.branches]
      rfl
    · exact ⟨[], around, rfl⟩
    · rw [bracketShape, bracketShape, fresh.bracket]
      rfl
  simp only [names, declaredNames, List.reverse_reverse, List.mem_reverse]
  rcases mirrors.reaches rfl alone ended bracket groups rfl with closed | ⟨clash, failed⟩
  · exact .inl closed
  · exact .inr ⟨clash, failed⟩

theorem skipBlanks_plain {t : Tape} (comment : t.openComment = false) : t.skipBlanks false = t := by
  obtain ⟨rest, offset, openComment⟩ := t
  simp only at comment
  subst comment
  cases rest <;> simp [Tape.skipBlanks, Tape.takeSpaced, Tape.gather]

theorem step_plain {x : Char} {rest : List Char} (bracket : R.bracket = none) (verbose : R.verbose = false)
    (comment : R.tape.openComment = false) (left : R.tape.rest = x :: rest) : R.step = R.part x R.tape := by
  have still : R.tape.skipBlanks R.verbose = R.tape := by rw [verbose, skipBlanks_plain comment]
  rw [step_outside bracket (by rw [still]; exact left), still]

/-- A parenthesis that no question mark follows opens a group that captures. -/
theorem step_capture {rest : List Char} (bracket : R.bracket = none) (verbose : R.verbose = false)
    (comment : R.tape.openComment = false) (left : R.tape.rest = '(' :: rest) (plain : rest.head? ≠ some '?') :
    ∃ R', R.step = .ok R' ∧ R'.Fresh ∧ R'.tape = ⟨rest, R.tape.offset + 1, false⟩ ∧ R'.captures = R.captures + 1 ∧
      R'.names = R.names ∧ R'.groups = ⟨R.tape.offset, .capture (R.captures + 1), R.verbose, R.parts, R.start,
        R.branches, R.branchesStart⟩ :: R.groups := by
  rw [step_plain bracket verbose comment left]
  change ∃ R', R.openParenthesis R.tape = .ok R' ∧ _
  have next : R.tape.nextSpaced R.verbose = ⟨rest, R.tape.offset + 1, false⟩ := by
    have one : R.tape.next = ⟨rest, R.tape.offset + 1, false⟩ := by simp [Tape.next, left, comment]
    rw [Tape.nextSpaced, one, verbose, skipBlanks_plain rfl]
  have unmarked (word : List Char) : Tape.skip? ⟨rest, R.tape.offset + 1, false⟩ ('?' :: word) = none := by
    rw [Tape.skip?, if_neg]
    cases rest with
    | nil => simp
    | cons first rest =>
      simp only [List.isPrefixOf_cons_cons, Bool.and_eq_true, beq_iff_eq, not_and]
      intro question
      exact absurd (by rw [List.head?_cons, question]) plain
  have header : Header.read R.verbose R.tape = .ok (.capture, ⟨rest, R.tape.offset + 1, false⟩) := by
    simp only [Header.read, next, Header.lookAroundMarks, List.findSome?, unmarked, Option.or]
  unfold openParenthesis
  simp only [header]
  exact ⟨_, rfl, ⟨rfl, rfl, bracket, verbose, rfl⟩, rfl, rfl, rfl, rfl⟩

end
end Reader

/-- One branch, or the alternation of several. -/
def Tree.ofBranches (span : Span) : List Tree → Tree
  | [branch] => branch
  | branches => .alternation span branches

theorem Tree.ofBranches_several (span : Span) {branches : List Tree} (several : branches.length ≠ 1) :
    ofBranches span branches = .alternation span branches := by
  match branches with
  | [] | _ :: _ :: _ => rfl
  | [_] => simp at several

theorem Tree.ofBranches_openings (span : Span) (trees : List Tree) :
    (ofBranches span trees).openings = openingsAll trees := by
  by_cases single : trees.length = 1
  · obtain ⟨tree, rfl⟩ := List.length_eq_one_iff.mp single
    exact (List.append_nil _).symm
  · rw [ofBranches_several span single, openings]

theorem Tree.ofBranches_nesting (span : Span) (trees : List Tree) :
    (ofBranches span trees).nesting = nestingAll trees + if trees.length = 1 then 0 else 1 := by
  by_cases single : trees.length = 1
  · obtain ⟨tree, rfl⟩ := List.length_eq_one_iff.mp single
    exact (Nat.max_zero _).symm
  · rw [ofBranches_several span single, nesting, if_neg single]

theorem Tree.ofBranches_shallow {span : Span} {depth : Nat} {trees : List Tree}
    (limited : (ofBranches span trees).tooDeep depth = none) : anyTooDeep depth trees = none := by
  by_cases single : trees.length = 1
  · obtain ⟨tree, rfl⟩ := List.length_eq_one_iff.mp single
    rw [anyTooDeep, Option.or_eq_none_iff]
    exact ⟨limited, rfl⟩
  · rw [ofBranches_several span single, tooDeep] at limited
    split at limited
    · simp at limited
    · rw [anyTooDeep_none] at limited ⊢
      exact limited.outward (Nat.le_succ depth)

/-- A group behind the start of the text takes two levels. -/
theorem Tree.tooDeep_anchored {whole outer : Span} {body : Tree} :
    (Tree.concat whole [.anchor ⟨0, 2⟩ .startText, .group outer (.plain []) body]).tooDeep 0 = none ↔
      body.tooDeep 2 = none := by
  simp [Tree.tooDeep, Tree.anyTooDeep, nestingLimit]

namespace Reader

/-- The reader at the start of a branch of an alternation. -/
structure AtBranch (R : Reader) : Prop where
  parts : R.parts = []
  bracket : R.bracket = none
  verbose : R.verbose = false
  comment : R.tape.openComment = false
  numbered : R.Numbered

/-- The reader behind an anchor and the opening of a group that captures nothing. -/
def anchored (rest : List Char) : Reader where
  tape := ⟨rest, 5, false⟩
  verbose := false
  captures := 0
  names := []
  parts := []
  start := 5
  branches := []
  branchesStart := 0
  groups := [⟨2, .plain [], false, [.anchor ⟨0, 2⟩ .startText], 0, [], 0⟩]
  bracket := none

theorem reaches_anchored (rest : List Char) :
    Reaches (.ofList false ('\\' :: 'A' :: '(' :: '?' :: ':' :: rest)) (anchored rest) := by
  have anchor : (ofList false ('\\' :: 'A' :: '(' :: '?' :: ':' :: rest)).step =
      .ok ⟨⟨'(' :: '?' :: ':' :: rest, 2, false⟩, false, 0, [], [.anchor ⟨0, 2⟩ .startText], 0, [], 0, [], none⟩ := rfl
  have group : step ⟨⟨'(' :: '?' :: ':' :: rest, 2, false⟩, false, 0, [], [.anchor ⟨0, 2⟩ .startText], 0, [], 0, [],
      none⟩ = .ok (anchored rest) := rfl
  exact .step (by simp [ofList, Tape.ofList]) anchor (.step (by simp) group (.refl _))

/-- The group behind the anchor closes at the end of the pattern. -/
theorem reaches_end {R : Reader} (bracket : R.bracket = none) (verbose : R.verbose = false)
    (comment : R.tape.openComment = false) (left : R.tape.rest = [')'])
    (groups : R.groups = (anchored []).groups) :
    ∃ last span, Reaches R last ∧ last.tape.rest = [] ∧ last.bracket = none ∧ last.groups = [] ∧
      last.declaredNames = R.declaredNames ∧ last.contents last.tape.offset = .concat ⟨0, last.tape.offset⟩
        [.anchor ⟨0, 2⟩ .startText, .group span (.plain []) (R.contents R.tape.offset)] := by
  have closes : R.part ')' R.tape = R.closeParenthesis R.tape := rfl
  have next : R.tape.next = ⟨[], R.tape.offset + 1, false⟩ := by simp [Tape.next, left, comment]
  unfold closeParenthesis at closes
  rw [groups] at closes
  refine ⟨_, ⟨2, R.tape.next.offset⟩, .step (by simp [left]) ((step_plain bracket verbose comment left).trans closes)
    (.refl _), ?_, bracket, rfl, rfl, ?_⟩
  · simp only [next]
  · rfl

/-- What a run leads to if it reads a pattern to its end. -/
structure Finishes (pattern : List Char) (last : Reader) : Prop where
  ran : (ofList false pattern).runAll = .ok last
  bracket : last.bracket = none
  groups : last.groups = []

end Reader

section
variable [Engine]

/-- A pattern with what is read of it alone, and what that means. -/
structure Piece where
  text : List Char
  reading : Reading
  read : Regex.read false text = .ok reading
  expr : Expr
  flags : Flags
  lowered : reading.tree.lower .initial = .ok (expr, flags)

namespace Piece

/-- The pattern as it stands in a group. -/
def closed (piece : Piece) : List Char := closedText piece.text piece.reading.openComment

/-- The pattern in a group of its own. -/
def wrapped (piece : Piece) : List Char := '(' :: piece.closed ++ [')']

/-- Patterns in groups of their own, separated by bars. -/
def alternatives : List Piece → List Char
  | [] => []
  | [piece] => piece.wrapped
  | piece :: rest => piece.wrapped ++ '|' :: alternatives rest

/-- The names that patterns declare, one pattern after the other. -/
def names (pieces : List Piece) : List String := pieces.flatMap (·.reading.tree.names)

/-- If the first pattern declares a name that was taken before, then not all names differ. -/
theorem names_clash {taken : List String} {piece : Piece} {pieces : List Piece}
    (clash : ∃ name ∈ taken, name ∈ piece.reading.tree.names) : ¬(taken ++ names (piece :: pieces)).Nodup := by
  obtain ⟨name, before, own⟩ := clash
  intro distinct
  have apart := (List.nodup_append.mp distinct).2.2 name before name
  exact apart (List.mem_flatMap.mpr ⟨piece, List.mem_cons_self, own⟩) rfl

end Piece

/-- The trees of patterns in groups of their own: where the groups open and close and how they are numbered, from an
offset and a number of groups before. -/
inductive Wraps : (offset shift : Nat) → List Piece → List Tree → Prop where
  | nil {offset shift : Nat} : Wraps offset shift [] []
  | cons {offset shift : Nat} {piece : Piece} {body : Tree} {pieces : List Piece} {trees : List Tree}
      (alike : piece.reading.tree.shape (· + (shift + 1)) = body.shape id)
      (inside : ∀ opening ∈ body.openings, opening.1 < offset + piece.wrapped.length)
      (rest : Wraps (offset + piece.wrapped.length + 1) (shift + 1 + piece.reading.captures) pieces trees) :
      Wraps offset shift (piece :: pieces)
        (.group ⟨offset, offset + piece.wrapped.length⟩ (.capture (shift + 1)) body :: trees)

namespace Reader

/-- A wrapped pattern is read into its group, unless it declares a name that was taken before. -/
theorem AtBranch.wrapped {R : Reader} {after : List Char} (start : R.AtBranch) (piece : Piece)
    (rest : R.tape.rest = piece.wrapped ++ after) :
    (∃ R' body, Reaches R R' ∧ piece.reading.tree.shape (· + (R.captures + 1)) = body.shape id ∧
      (∀ opening ∈ body.openings, opening.1 < R.tape.offset + piece.wrapped.length) ∧
      R'.tape = ⟨after, R.tape.offset + piece.wrapped.length, false⟩ ∧
      R'.parts = [.group ⟨R.tape.offset, R.tape.offset + piece.wrapped.length⟩ (.capture (R.captures + 1)) body] ∧
      R'.captures = R.captures + 1 + piece.reading.captures ∧
      R'.declaredNames = R.declaredNames ++ piece.reading.tree.names ∧ R'.verbose = false ∧
      R'.branches = R.branches ∧ R'.groups = R.groups ∧ R'.bracket = none) ∨
    (∃ name ∈ R.declaredNames, name ∈ piece.reading.tree.names) ∧ Duplicate R.runAll := by
  have text : R.tape.rest = '(' :: (piece.closed ++ ')' :: after) := by
    rw [rest, Piece.wrapped]
    simp
  obtain ⟨R₁, opens, fresh, tape, count, names, groups⟩ :=
    step_capture start.bracket start.verbose start.comment text (closedText_head piece.read after)
  have some : R.tape.rest ≠ [] := by simp [text]
  have known : R₁.declaredNames = R.declaredNames := by rw [declaredNames, names, declaredNames]
  obtain ⟨R', onward, closed⟩ | clash := fresh.encloses groups piece.read (by rw [tape]; rfl)
  · left
    have reaches : Reaches R R' := .step some opens onward
    obtain ⟨body, parts, alike⟩ := closed.parts
    rw [count] at alike
    have total := reaches.follows.total
    have left : R'.tape.rest = after := closed.rest
    rw [left, rest, List.length_append] at total
    have offset : R'.tape.offset = R.tape.offset + piece.wrapped.length := by omega
    refine ⟨R', body, reaches, alike, ?_, ?_, ?_, ?_, ?_, ?_, closed.branches, closed.groups, closed.bracket⟩
    · intro opening member
      rw [← offset]
      apply (start.numbered.reaches reaches).before
      simp [Reader.openings, parts, Tree.openings, member]
    · rw [← offset, ← left, ← closed.comment]
    · rw [parts, offset]
      simp only [start.parts]
    · rw [closed.captures, count]
      exact Nat.add_comm _ _
    · rw [declaredNames, closed.names, List.reverse_append, List.reverse_reverse, ← known, declaredNames]
    · exact closed.verbose.trans start.verbose
  · right
    rw [runAll_step some opens, ← known]
    exact clash

/-- The branches of an alternation are read one after the other, unless a name is declared twice. -/
theorem AtBranch.alternatives {R : Reader} {after : List Char} (start : R.AtBranch) (piece : Piece)
    (pieces : List Piece) (rest : R.tape.rest = Piece.alternatives (piece :: pieces) ++ ')' :: after) :
    (∃ R' tree trees, Reaches R R' ∧ Wraps R.tape.offset R.captures (piece :: pieces) trees ∧
      R'.branches.reverse ++ [tree] = R.branches.reverse ++ trees ∧ R'.parts = [tree] ∧
      R'.declaredNames = R.declaredNames ++ Piece.names (piece :: pieces) ∧
      R'.tape.rest = ')' :: after ∧ R'.tape.openComment = false ∧ R'.verbose = false ∧ R'.groups = R.groups ∧
      R'.bracket = none) ∨
    ¬(R.declaredNames ++ Piece.names (piece :: pieces)).Nodup ∧ Duplicate R.runAll := by
  induction pieces generalizing R piece with
  | nil =>
    obtain ⟨R', body, reaches, alike, inside, tape, parts, -, names, verbose, branches, groups, bracket⟩ | clash :=
      start.wrapped piece rest
    · left
      refine ⟨R', _, _, reaches, .cons alike inside .nil, ?_, parts, ?_, ?_, ?_, verbose, groups, bracket⟩
      · rw [branches]
      · rw [names, Piece.names, List.flatMap_singleton]
      · rw [tape]
      · rw [tape]
    · exact .inr ⟨Piece.names_clash clash.1, clash.2⟩
  | cons next pieces ih =>
    have text : R.tape.rest = piece.wrapped ++ '|' :: (Piece.alternatives (next :: pieces) ++ ')' :: after) := by
      rw [rest, Piece.alternatives]
      · simp
      · simp
    obtain ⟨R', body, reaches, alike, inside, tape, parts, captures, names, verbose, branches, groups, bracket⟩ |
      clash := start.wrapped piece text
    · have left : R'.tape.rest = '|' :: (Piece.alternatives (next :: pieces) ++ ')' :: after) := by rw [tape]
      have bar : R'.step = .ok (R'.nextBranch R'.tape) := step_plain bracket verbose (by rw [tape]) left
      have behind : (R'.nextBranch R'.tape).tape = ⟨Piece.alternatives (next :: pieces) ++ ')' :: after,
          R.tape.offset + piece.wrapped.length + 1, false⟩ := by
        rw [nextBranch, tape]
        rfl
      have more : R'.tape.rest ≠ [] := by simp [left]
      have known : (R'.nextBranch R'.tape).declaredNames ++ Piece.names (next :: pieces) =
          R.declaredNames ++ Piece.names (piece :: next :: pieces) := by
        rw [show (R'.nextBranch R'.tape).declaredNames = R'.declaredNames from rfl, names, List.append_assoc]
        rfl
      have again : (R'.nextBranch R'.tape).AtBranch :=
        ⟨rfl, bracket, verbose, by rw [behind], (start.numbered.reaches reaches).step bar⟩
      obtain ⟨R'', tree, trees, onward, wraps, whole, lastParts, lastNames, lastRest, comment, mode, outer, outside⟩ |
        ⟨twice, failed⟩ := ih again next (by rw [behind])
      · left
        refine ⟨R'', tree, _ :: trees, reaches.trans (.step more bar onward), .cons alike inside ?_, ?_, lastParts,
          lastNames.trans known, lastRest, comment, mode, outer.trans groups, outside⟩
        · rw [behind] at wraps
          rw [← captures]
          exact wraps
        · rw [whole, nextBranch, branch, parts, branches]
          simp [Tree.ofParts]
      · rw [reaches.runAll, runAll_step more bar, ← known]
        exact .inr ⟨twice, failed⟩
    · exact .inr ⟨Piece.names_clash clash.1, clash.2⟩

/-- Patterns as branches of an alternation behind the start of the text can be read unless a name is declared twice, and
then the trees are theirs. -/
theorem runs_alternatives (piece : Piece) (pieces : List Piece) :
    let source := '\\' :: 'A' :: '(' :: '?' :: ':' :: (Piece.alternatives (piece :: pieces) ++ [')'])
    (∃ last trees whole outer inner, Finishes source last ∧ Wraps 5 0 (piece :: pieces) trees ∧
      (Piece.names (piece :: pieces)).Nodup ∧ last.contents last.tape.offset =
        .concat whole [.anchor ⟨0, 2⟩ .startText, .group outer (.plain []) (Tree.ofBranches inner trees)]) ∨
    ¬(Piece.names (piece :: pieces)).Nodup ∧ Duplicate (ofList false source).runAll := by
  intro source
  have start := reaches_anchored (Piece.alternatives (piece :: pieces) ++ [')'])
  obtain ⟨R, tree, trees, onward, wraps, branches, parts, names, rest, comment, verbose, groups, bracket⟩ | clash :=
    AtBranch.alternatives ⟨rfl, rfl, rfl, rfl, (numbered_ofList _ _).reaches start⟩ piece pieces rfl
  · left
    obtain ⟨last, outer, closing, ended, outside, closed, kept, contents⟩ :=
      reaches_end bracket verbose comment rest groups
    have ran : (ofList false source).runAll = .ok last := by
      rw [start.runAll, onward.runAll, closing.runAll, Reader.runAll, run_done _ ended]
    have distinct := ((declared_ofList _ _).reaches ((start.trans onward).trans closing)).distinct
    rw [kept, names] at distinct
    have body : R.contents R.tape.offset = Tree.ofBranches ⟨R.branchesStart, R.tape.offset⟩ trees := by
      change R.branches.reverse ++ [tree] = trees at branches
      unfold Reader.contents Reader.branch
      cases none : R.branches with
      | nil =>
        rw [none, List.reverse_nil, List.nil_append] at branches
        simp [parts, Tree.ofParts, ← branches, Tree.ofBranches]
      | cons first before =>
        rw [none] at branches
        rw [← branches, Tree.ofBranches_several _ (by simp), parts]
        rfl
    exact ⟨last, trees, _, _, _, ⟨ran, outside, closed⟩, wraps, distinct, body ▸ contents⟩
  · rw [start.runAll]
    exact .inr clash

/-- A pattern behind the start of the text can be read, and its tree is its own. -/
theorem runs_anchored (piece : Piece) : ∃ last whole outer body,
    Finishes ('\\' :: 'A' :: '(' :: '?' :: ':' :: (piece.closed ++ [')'])) last ∧
      piece.reading.tree.shape id = body.shape id ∧ last.contents last.tape.offset =
        .concat whole [.anchor ⟨0, 2⟩ .startText, .group outer (.plain []) body] := by
  have start := reaches_anchored (piece.closed ++ [')'])
  have fresh : (anchored (piece.closed ++ [')'])).Fresh := ⟨rfl, rfl, rfl, rfl, rfl⟩
  have left : (anchored (piece.closed ++ [')'])).tape.rest =
      closedText piece.text piece.reading.openComment ++ ')' :: [] := rfl
  obtain ⟨R, onward, closed⟩ | ⟨⟨name, unnamed, -⟩, -⟩ := fresh.encloses rfl piece.read left
  · obtain ⟨body, parts, alike⟩ := closed.parts
    have contents : R.contents R.tape.offset = .concat ⟨R.start, R.tape.offset⟩ [.anchor ⟨0, 2⟩ .startText,
        .group ⟨2, R.tape.offset⟩ (.plain []) body] := by
      unfold Reader.contents Reader.branch
      rw [show R.branches = [] from closed.branches, parts]
      rfl
    have ran : (ofList false ('\\' :: 'A' :: '(' :: '?' :: ':' :: (piece.closed ++ [')']))).runAll = .ok R := by
      rw [start.runAll, onward.runAll, Reader.runAll, run_done _ closed.rest]
    exact ⟨R, _, _, body, ⟨ran, closed.bracket, closed.groups⟩, alike, contents⟩
  · exact absurd unnamed List.not_mem_nil

end Reader

open Reader

/-- Patterns as branches of an alternation behind the start of the text: the trees are theirs. -/
theorem read_alternatives {piece : Piece} {pieces : List Piece} {reading : Reading}
    (found : read false ('\\' :: 'A' :: '(' :: '?' :: ':' :: (Piece.alternatives (piece :: pieces) ++ [')'])) =
      .ok reading) :
    ∃ trees whole outer inner, Wraps 5 0 (piece :: pieces) trees ∧ reading.tree =
      .concat whole [.anchor ⟨0, 2⟩ .startText, .group outer (.plain []) (Tree.ofBranches inner trees)] := by
  obtain ⟨last, ran, -, -, rfl, -⟩ := read_ok found
  obtain ⟨final, trees, whole, outer, inner, finishes, wraps, -, contents⟩ | ⟨-, e, failed, -⟩ :=
    runs_alternatives piece pieces
  · rw [finishes.ran, Except.ok.injEq] at ran
    exact ⟨trees, whole, outer, inner, wraps, ran ▸ contents⟩
  · rw [failed] at ran
    simp at ran

/-- A pattern behind the start of the text: the tree is its own. -/
theorem tree_anchored {piece : Piece} {reading : Reading}
    (found : read false ('\\' :: 'A' :: '(' :: '?' :: ':' :: (piece.closed ++ [')'])) = .ok reading) :
    ∃ whole outer body, piece.reading.tree.shape id = body.shape id ∧
      reading.tree = .concat whole [.anchor ⟨0, 2⟩ .startText, .group outer (.plain []) body] := by
  obtain ⟨last, ran, -, -, rfl, -⟩ := read_ok found
  obtain ⟨final, whole, outer, body, finishes, alike, contents⟩ := runs_anchored piece
  rw [finishes.ran, Except.ok.injEq] at ran
  exact ⟨whole, outer, body, alike, ran ▸ contents⟩

/-- A pattern behind the start of the text can be read if it is not nested too deeply. -/
theorem read_anchored (piece : Piece) (shallow : piece.reading.tree.tooDeep 2 = none) :
    ∃ reading whole outer body, read false ('\\' :: 'A' :: '(' :: '?' :: ':' :: (piece.closed ++ [')'])) = .ok reading ∧
      piece.reading.tree.shape id = body.shape id ∧
      reading.tree = .concat whole [.anchor ⟨0, 2⟩ .startText, .group outer (.plain []) body] := by
  obtain ⟨last, whole, outer, body, finishes, alike, contents⟩ := runs_anchored piece
  have limited : (last.contents last.tape.offset).tooDeep 0 = none := by
    rw [Tree.tooDeep_none, Tree.nesting_like alike, ← Tree.tooDeep_none] at shallow
    rw [contents]
    exact Tree.tooDeep_anchored.mpr shallow
  exact ⟨_, whole, outer, body, read_of_runAll finishes.ran finishes.bracket finishes.groups limited, alike, contents⟩

end

end Lexicon.Regex

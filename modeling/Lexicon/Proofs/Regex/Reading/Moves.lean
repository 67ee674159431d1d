import Lexicon.Proofs.Regex.Reading.Reader

/-! What one step of the reader can do to its parts, its branches and its groups. It is said once, and whatever holds
along a whole run is derived from it. -/
namespace Lexicon.Regex

mutual
/-- The groups of a tree in the order of the pattern: where each opens, and its kind. -/
def Tree.heads : Tree → List (Nat × GroupKind)
  | .repetition _ _ _ body => body.heads
  | .group span kind body => (span.start, kind) :: body.heads
  | .alternation _ trees | .concat _ trees => Tree.headsAll trees
  | _ => []

def Tree.headsAll : List Tree → List (Nat × GroupKind)
  | [] => []
  | tree :: trees => tree.heads ++ Tree.headsAll trees
end

theorem Tree.headsAll_eq (trees : List Tree) : Tree.headsAll trees = trees.flatMap Tree.heads := by
  induction trees with
  | nil => rfl
  | cons tree trees ih => rw [Tree.headsAll, ih, List.flatMap_cons]

theorem Tree.ofParts_heads (span : Span) (parts : List Tree) :
    (Tree.ofParts span parts).heads = parts.flatMap Tree.heads := by
  match parts with
  | [] => rfl
  | [part] => exact (List.flatMap_singleton Tree.heads part).symm
  | _ :: _ :: _ =>
    rw [ofParts, heads, headsAll_eq]
    all_goals simp

/-- What opened up to an open group, and the group itself. -/
def OpenGroup.heads (g : OpenGroup) : List (Nat × GroupKind) :=
  g.branches.reverse.flatMap Tree.heads ++ g.parts.reverse.flatMap Tree.heads ++ [(g.offset, g.kind)]

namespace Reader
variable {r r' : Reader} {t : Tape}

/-- The groups that opened so far. -/
def heads (r : Reader) : List (Nat × GroupKind) :=
  r.groups.reverse.flatMap OpenGroup.heads ++
    (r.branches.reverse.flatMap Tree.heads ++ r.parts.reverse.flatMap Tree.heads)

theorem contents_heads (r : Reader) (stop : Nat) : (r.contents stop).heads =
    r.branches.reverse.flatMap Tree.heads ++ r.parts.reverse.flatMap Tree.heads := by
  unfold contents
  cases r.branches with
  | nil => exact Tree.ofParts_heads _ _
  | cons first rest =>
    rw [Tree.heads, Tree.headsAll_eq, List.flatMap_append, List.flatMap_singleton, branch, Tree.ofParts_heads]

/-- What a step may come to: nothing but blanks or a part of a bracket is passed over, a part without groups is read, a
branch ends, a group opens or closes, or the last part is repeated. -/
inductive Moves : Reader → Reader → Prop where
  | still (r : Reader) (bracket : Option (Bracket × List Bracket)) (tape : Tape) : Moves r { r with bracket, tape }
  | part {r : Reader} {tree : Tree} (plain : tree.heads = []) (verbose : Bool)
      (bracket : Option (Bracket × List Bracket)) (tape : Tape) :
      Moves r ({ r with verbose, bracket }.push tree tape)
  | bar (r : Reader) (tape : Tape) : Moves r (r.nextBranch tape)
  | capture {r : Reader} {offset : Nat} {tape : Tape} (behind : offset < tape.offset) (verbose : Bool) :
      Moves r ({ r with captures := r.captures + 1 }.openGroup offset (.capture (r.captures + 1)) verbose tape)
  | named {r : Reader} {name : String} (fresh : r.names.lookup name = none) (span : Span) {offset : Nat} {tape : Tape}
      (behind : offset < tape.offset) (verbose : Bool) :
      Moves r ({ r with captures := r.captures + 1, names := (name, span) :: r.names }.openGroup offset
        (.named (r.captures + 1) name) verbose tape)
  | plain {r : Reader} (items : FlagItems) {offset : Nat} {tape : Tape} (behind : offset < tape.offset)
      (verbose : Bool) : Moves r (r.openGroup offset (.plain items) verbose tape)
  | close {r r' : Reader} {t : Tape} (closed : r.closeParenthesis t = .ok r') : Moves r r'
  | repetition {r : Reader} {last : Tree} {parts : List Tree} (read : r.parts = last :: parts) (span : Span)
      (count : Count) (greedy : Bool) (tape : Tape) :
      Moves r { r with tape, parts := .repetition span count greedy last :: parts }

theorem openParenthesis_moves (more : t.rest ≠ []) (opened : r.openParenthesis t = .ok r') : Moves r r' := by
  have behind {header : Header} {t' : Tape} (found : Header.read r.verbose t = .ok (header, t')) :
      t.offset < t'.offset := by
    have follows := (t.next.skipBlanks_follows r.verbose).trans (Header.read_follows _ _ found)
    have one : t.next.offset = t.offset + 1 := by
      cases left : t.rest with
      | nil => exact absurd left more
      | cons => simp [Tape.next, left]
    exact Nat.lt_of_lt_of_le (one ▸ Nat.lt_succ_self _) follows.offset_le
  unfold openParenthesis at opened
  split at opened
  · simp at opened
  · next found =>
    cases opened
    exact .capture (behind found) _
  · next found =>
    split at opened
    · simp at opened
    · next fresh =>
      cases opened
      exact .named fresh _ (behind found) _
  · next found =>
    cases opened
    exact .plain _ (behind found) _
  · cases opened
    exact .part rfl _ r.bracket _

theorem repeatLast_moves {x : Char} (repeated : r.repeatLast x t = .ok r') : Moves r r' := by
  unfold repeatLast at repeated
  split at repeated
  iterate 3 simp at repeated
  next last parts _ _ read =>
  split at repeated
  · simp at repeated
  · cases repeated
    exact .repetition read _ _ _ _

theorem part_moves {x : Char} (more : t.rest ≠ []) (read : r.part x t = .ok r') : Moves r r' := by
  unfold Reader.part at read
  split at read
  · exact openParenthesis_moves more read
  · exact .close read
  · cases read
    exact .bar r t
  · cases found : Bracket.read r.verbose t with
    | error e => simp [found, Except.map] at read
    | ok opened =>
      simp only [found, Except.map, Except.ok.injEq] at read
      subst read
      exact .still r _ _
  iterate 4 exact repeatLast_moves read
  · cases found : readPrimitive r.verbose x t with
    | error e => simp [found, Except.map] at read
    | ok primitive =>
      simp only [found, Except.map, Except.ok.injEq] at read
      subst read
      exact .part (by cases primitive.1 <;> rfl) r.verbose r.bracket _

theorem step_moves (stepped : r.step = .ok r') : Moves r r' := by
  unfold Reader.step at stepped
  split at stepped
  · next b outer _ =>
    cases found : Bracket.step r.verbose b outer r.tape with
    | error e => simp [found, Except.map] at stepped
    | ok progress =>
      simp only [found, Except.map, Except.ok.injEq] at stepped
      cases progress with
      | inside =>
        subst stepped
        exact .still r _ _
      | closed =>
        subst stepped
        exact .part rfl r.verbose _ _
  · simp only at stepped
    split at stepped
    · cases stepped
      exact .still r r.bracket _
    · next left => exact part_moves (by simp [left]) stepped

theorem openGroup_heads (r : Reader) (offset : Nat) (kind : GroupKind) (verbose : Bool) (t : Tape) :
    (r.openGroup offset kind verbose t).heads = r.heads ++ [(offset, kind)] := by
  simp [Reader.heads, openGroup, OpenGroup.heads]

theorem closeParenthesis_heads (closed : r.closeParenthesis t = .ok r') :
    r'.heads = r.heads ∧ r'.captures = r.captures ∧ r'.names = r.names := by
  unfold closeParenthesis at closed
  split at closed
  · simp at closed
  · next g groups opened =>
    cases closed
    simp [Reader.heads, OpenGroup.heads, opened, Tree.heads, contents_heads]

/-- A step opens no group, or one of the three kinds: the next number is counted, and a name is new. -/
inductive Opens (r r' : Reader) : Prop where
  | nothing (heads : r'.heads = r.heads) (captures : r'.captures = r.captures) (names : r'.names = r.names)
  | plain {offset : Nat} {items : FlagItems} (behind : offset < r'.tape.offset)
      (heads : r'.heads = r.heads ++ [(offset, .plain items)]) (captures : r'.captures = r.captures)
      (names : r'.names = r.names)
  | capture {offset : Nat} (behind : offset < r'.tape.offset)
      (heads : r'.heads = r.heads ++ [(offset, .capture (r.captures + 1))]) (captures : r'.captures = r.captures + 1)
      (names : r'.names = r.names)
  | named {offset : Nat} {name : String} {span : Span} (behind : offset < r'.tape.offset)
      (heads : r'.heads = r.heads ++ [(offset, .named (r.captures + 1) name)])
      (captures : r'.captures = r.captures + 1) (names : r'.names = (name, span) :: r.names)
      (fresh : name ∉ r.names.map (·.1))

theorem Moves.opens (moves : Moves r r') : Opens r r' := by
  cases moves with
  | still => exact .nothing rfl rfl rfl
  | part plain => exact .nothing (by simp [Reader.heads, push, plain]) rfl rfl
  | bar => exact .nothing (by simp [Reader.heads, nextBranch, branch, Tree.ofParts_heads]) rfl rfl
  | capture behind => exact .capture behind (openGroup_heads _ _ _ _ _) rfl rfl
  | named fresh _ behind => exact .named behind (openGroup_heads _ _ _ _ _) rfl rfl (lookup_none.mp fresh)
  | plain _ behind => exact .plain behind (openGroup_heads _ _ _ _ _) rfl rfl
  | close closed =>
    obtain ⟨heads, captures, names⟩ := closeParenthesis_heads closed
    exact .nothing heads captures names
  | repetition read => exact .nothing (by simp [Reader.heads, read, Tree.heads]) rfl rfl

/-- Names are added, and none is forgotten. -/
theorem step_names (stepped : r.step = .ok r') : r.names <:+ r'.names := by
  cases (step_moves stepped).opens with
  | nothing _ _ names | plain _ _ _ names | capture _ _ _ names => exact names ▸ List.suffix_refl _
  | named _ _ _ names => exact names ▸ List.suffix_cons _ _

end Reader
end Lexicon.Regex

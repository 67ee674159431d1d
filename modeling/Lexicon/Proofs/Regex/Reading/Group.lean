import Lexicon.Proofs.Regex.Reading.Moves

/-! A whole pattern inside of a group: what was read alone becomes the body of the group. -/
namespace Lexicon.Regex
open Surroundings (Fits)

namespace Reader

/-- Steps lead from the first reader to the second. -/
inductive Reaches : Reader → Reader → Prop where
  | refl (r : Reader) : Reaches r r
  | step {r r' r'' : Reader} (more : r.tape.rest ≠ []) (stepped : r.step = .ok r') (rest : Reaches r' r'') :
      Reaches r r''

theorem Reaches.trans {r r' r'' : Reader} (first : Reaches r r') (second : Reaches r' r'') : Reaches r r'' := by
  induction first with
  | refl => exact second
  | step more stepped _ ih => exact .step more stepped (ih second)

theorem Reaches.follows {r r' : Reader} (reaches : Reaches r r') : r.tape.Follows r'.tape := by
  induction reaches with
  | refl => exact .refl _
  | step _ stepped _ ih => exact (step_follows stepped).1.trans ih

/-- Names are added, and none is forgotten. -/
theorem Reaches.names {r r' : Reader} (reaches : Reaches r r') : r.names <:+ r'.names := by
  induction reaches with
  | refl => exact List.suffix_refl _
  | step _ stepped _ ih => exact (step_names stepped).trans ih

/-- Takes all steps that are left. -/
def runAll (r : Reader) : Except Diagnostic Reader := run r.tape.rest.length r

theorem run_done {r : Reader} (steps : Nat) (ended : r.tape.rest = []) : run steps r = .ok r := by
  cases steps with
  | zero => rfl
  | succ steps => rw [run, if_pos (by simp [ended])]

theorem run_step {r : Reader} (steps : Nat) (more : r.tape.rest ≠ []) : run (steps + 1) r =
    match r.step with
    | .error e => .error e
    | .ok r' => run steps r' := by
  have unread : r.tape.rest.isEmpty = false := by simpa using more
  cases stepped : r.step with
  | error e => simp [run, unread, stepped]
  | ok r' => simp [run, unread, stepped]

/-- As many steps as there are characters are enough. -/
theorem run_eq {steps others : Nat} {r : Reader} (enough : r.tape.rest.length ≤ steps)
    (plenty : r.tape.rest.length ≤ others) : run steps r = run others r := by
  induction steps generalizing r others with
  | zero =>
    have ended := List.length_eq_zero_iff.mp (Nat.le_zero.mp enough)
    rw [run_done _ ended, run_done _ ended]
  | succ steps ih =>
    by_cases ended : r.tape.rest = []
    · rw [run_done _ ended, run_done _ ended]
    · have some := List.length_pos_iff.mpr ended
      obtain ⟨others, rfl⟩ : ∃ less, others = less + 1 := ⟨others - 1, by omega⟩
      rw [run_step _ ended, run_step _ ended]
      cases stepped : r.step with
      | error e => rfl
      | ok r' =>
        have shorter := (step_follows stepped).2 ended
        exact ih (by omega) (by omega)

theorem runAll_step {r r' : Reader} (more : r.tape.rest ≠ []) (stepped : r.step = .ok r') : r.runAll = r'.runAll := by
  have some := List.length_pos_iff.mpr more
  have shorter := (step_follows stepped).2 more
  rw [runAll, show r.tape.rest.length = r.tape.rest.length - 1 + 1 by omega, run_step _ more, stepped]
  exact run_eq (by omega) (Nat.le_refl _)

theorem runAll_error {r : Reader} {e : Diagnostic} (more : r.tape.rest ≠ []) (stepped : r.step = .error e) :
    r.runAll = .error e := by
  have some := List.length_pos_iff.mpr more
  rw [runAll, show r.tape.rest.length = r.tape.rest.length - 1 + 1 by omega, run_step _ more, stepped]

theorem Reaches.runAll {r r' : Reader} (reaches : Reaches r r') : r.runAll = r'.runAll := by
  induction reaches with
  | refl => rfl
  | step more stepped _ ih => exact (runAll_step more stepped).trans ih

/-- A run that succeeds has taken its steps to the end of the pattern. -/
theorem runAll_ok {r last : Reader} (ran : r.runAll = .ok last) : Reaches r last ∧ last.tape.rest = [] := by
  induction length : r.tape.rest.length using Nat.strongRecOn generalizing r with
  | _ length ih =>
    by_cases ended : r.tape.rest = []
    · rw [Reader.runAll, run_done _ ended, Except.ok.injEq] at ran
      subst ran
      exact ⟨.refl r, ended⟩
    · cases stepped : r.step with
      | error e => simp [runAll_error ended stepped] at ran
      | ok r' =>
        have shorter := (step_follows stepped).2 ended
        rw [runAll_step ended stepped] at ran
        obtain ⟨reaches, done⟩ := ih _ (by omega) ran rfl
        exact ⟨.step ended stepped reaches, done⟩

/-- The reader behind a group that a pattern fills: what was read of the pattern alone is its body. -/
structure Closed (frame : Frame) (g : OpenGroup) (outer : List OpenGroup) (tree : Tree) (captures : Nat)
    (names : List String) (R : Reader) : Prop where
  rest : R.tape.rest = frame.surroundings.after
  comment : R.tape.openComment = false
  verbose : R.verbose = g.verbose
  captures : R.captures = captures + frame.shift
  names : R.names.map (·.1) = names ++ frame.names
  parts : ∃ body : Tree, R.parts = .group ⟨g.offset, R.tape.offset⟩ g.kind body :: g.parts ∧
    tree.shape (· + frame.shift) = body.shape id
  branches : R.branches = g.branches
  groups : R.groups = outer
  bracket : R.bracket = none

section
variable {frame : Frame} {g : OpenGroup} {outer : List OpenGroup} {r R last : Reader} {T : Tape}

theorem Mirrors.closed (mirrors : Mirrors frame last R) (around : frame.groups = g :: outer)
    (bracket : last.bracket = none) (groups : last.groups = [])
    (rest : T.rest = ')' :: frame.surroundings.after) (comment : T.openComment = false) :
    ∃ R', R.part ')' T = .ok R' ∧
      Closed frame g outer (last.contents last.tape.offset) last.captures (last.names.map (·.1)) R' := by
  obtain ⟨own, whole, shaped⟩ := mirrors.groups
  rw [groups, List.map_nil, eq_comm, List.map_eq_nil_iff] at shaped
  rw [shaped, List.nil_append, around] at whole
  have brackets := mirrors.bracket
  rw [bracketShape, bracket, Option.map_none, bracketShape, eq_comm, Option.map_eq_none_iff] at brackets
  have next : T.next = ⟨frame.surroundings.after, T.offset + 1, false⟩ := by simp [Tape.next, rest, comment]
  change ∃ R', R.closeParenthesis T = .ok R' ∧ _
  unfold Reader.closeParenthesis
  rw [whole]
  refine ⟨_, rfl, ?_⟩
  exact
    { rest := by simp only [next]
      comment := by simp only [next]
      verbose := rfl
      captures := mirrors.captures
      names := mirrors.names
      parts := ⟨R.contents T.offset, rfl, mirrors.contents _ _⟩
      branches := rfl
      groups := rfl
      bracket := brackets }

/-- Where nothing but the end of the group is left, blanks are not passed over. -/
theorem skipBlanks_closed {after : List Char} (verbose : Bool) (rest : T.rest = ')' :: after)
    (comment : T.openComment = false) : T.skipBlanks verbose = T := by
  obtain ⟨rest', offset, openComment⟩ := T
  simp only at rest comment
  subst rest comment
  have blank : Unicode.isBlank ')' = false := by decide
  simp [Tape.skipBlanks, Tape.takeSpaced, Tape.gather, blank]

theorem step_outside {x : Char} {rest : List Char} (bracket : R.bracket = none)
    (left : (R.tape.skipBlanks R.verbose).rest = x :: rest) : R.step = R.part x (R.tape.skipBlanks R.verbose) := by
  unfold Reader.step
  simp only [bracket, left]

theorem Mirrors.bracket_none (mirrors : Mirrors frame r R) (bracket : r.bracket = none) : R.bracket = none := by
  have brackets := mirrors.bracket
  rwa [bracketShape, bracket, Option.map_none, bracketShape, eq_comm, Option.map_eq_none_iff] at brackets

theorem Mirrors.unended (mirrors : Mirrors frame r R) : R.tape.rest ≠ [] := by
  obtain ⟨first, more, tail, -⟩ := frame.surroundings.tail_cons r.tape.openComment
  rw [mirrors.tape.rest, tail]
  simp

/-- A fault with a name remains one with a later reader of the pattern. -/
theorem Clashes.later {α β : Type} {result : Except Diagnostic α} {other : Except Diagnostic β}
    (clashes : Clashes frame r result) (reaches : Reaches r last)
    (same : ∀ e, result = .error e → other = .error e) : Clashes frame last other := by
  obtain ⟨⟨name, taken, declared⟩, e, failed, fault⟩ := clashes
  exact ⟨⟨name, taken, (reaches.names.map (·.1)).subset declared⟩, e, same e failed, fault⟩

/-- Inside of a group the steps lead behind the group, unless the pattern declares a name that was taken before. -/
theorem Mirrors.reaches (mirrors : Mirrors frame r R) (around : frame.groups = g :: outer)
    (alone : Reaches r last) (ended : last.tape.rest = []) (bracket : last.bracket = none)
    (groups : last.groups = []) (closing : last.tape.openComment = frame.surroundings.closing) :
    (∃ R', Reaches R R' ∧
      Closed frame g outer (last.contents last.tape.offset) last.captures (last.names.map (·.1)) R') ∨
      Clashes frame last R.runAll := by
  have fits : Fits frame.surroundings last.tape := fun _ => closing
  induction alone generalizing R with
  | refl r =>
    left
    have rest := mirrors.tape.ended fits ended
    have still := skipBlanks_closed R.verbose rest mirrors.tape.comment
    obtain ⟨R', stepped, closed⟩ := mirrors.closed around bracket groups rest mirrors.tape.comment
    have step : R.step = .ok R' := by
      rw [step_outside (mirrors.bracket_none bracket) (still.symm ▸ rest), still]
      exact stepped
    exact ⟨R', .step mirrors.unended step (.refl R'), closed⟩
  | @step r r' last more stepped rest ih =>
    by_cases live : r.bracket ≠ none ∨ (r.tape.skipBlanks r.verbose).rest ≠ []
    · rcases mirrors.step live stepped (fits.back rest.follows) with ⟨R', step, still⟩ | clashes
      · rcases ih still ended bracket groups closing fits with ⟨R'', onward, closed⟩ | clashes
        · exact .inl ⟨R'', .step mirrors.unended step onward, closed⟩
        · rw [runAll_step mirrors.unended step]
          exact .inr clashes
      · exact .inr (clashes.later rest fun e => runAll_error mirrors.unended)
    · -- Alone nothing but blanks was left; inside, the step that passes over them closes the group.
      simp only [ne_eq, not_or, Decidable.not_not] at live
      obtain ⟨outside, blank⟩ := live
      have same : r' = { r with tape := r.tape.skipBlanks r.verbose } := by
        unfold Reader.step at stepped
        simp only [outside, blank, Except.ok.injEq] at stepped
        rw [← stepped, outside]
      subst same
      cases rest with
      | step unread => exact absurd blank unread
      | refl =>
        left
        have placed := mirrors.tape.skipBlanks fits
        have left := placed.ended fits blank
        obtain ⟨R', stepped, closed⟩ :=
          (mirrors.brackets mirrors.bracket placed).closed around bracket groups left placed.comment
        have step : R.step = .ok R' := by
          rw [← mirrors.verbose] at left
          rw [step_outside (mirrors.bracket_none outside) left, mirrors.verbose]
          exact stepped
        exact ⟨R', .step mirrors.unended step (.refl R'), closed⟩

end

end Reader
end Lexicon.Regex

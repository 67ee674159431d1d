import Lexicon.Regex.Diagnostic
import Lexicon.Regex.Tape

/-! Reading a pattern that stands in a group of a larger one. The tape alone ends where the group's pattern
ends; inside, the group is closed and more follows. A pattern that ends in a comment is followed by a line feed
first. -/
namespace Lexicon.Regex

namespace Tape

/-- The second tape is the first one further on. -/
structure Follows (t t' : Tape) : Prop where
  suffix : t'.rest <:+ t.rest
  total : t'.offset + t'.rest.length = t.offset + t.rest.length
  ended : t.rest = [] → t' = t

theorem Follows.refl (t : Tape) : t.Follows t := ⟨List.suffix_refl _, rfl, fun _ => rfl⟩

theorem Follows.trans {t t' t'' : Tape} (first : t.Follows t') (second : t'.Follows t'') : t.Follows t'' where
  suffix := second.suffix.trans first.suffix
  total := second.total.trans first.total
  ended := by
    intro none
    have same := first.ended none
    subst same
    exact second.ended none

theorem Follows.length_le {t t' : Tape} (follows : t.Follows t') : t'.rest.length ≤ t.rest.length :=
  follows.suffix.length_le

theorem Follows.offset_le {t t' : Tape} (follows : t.Follows t') : t.offset ≤ t'.offset := by
  have total := follows.total
  have shorter := follows.length_le
  omega

theorem next_follows (t : Tape) : t.Follows t.next := by
  unfold next
  split
  · exact Follows.refl t
  · next c rest left =>
    refine ⟨?_, ?_, ?_⟩
    · rw [left]
      exact List.suffix_cons c rest
    · simp only [left, List.length_cons]
      omega
    · simp [left]

theorem next_shorter {t : Tape} (more : t.rest ≠ []) : t.next.rest.length < t.rest.length := by
  cases left : t.rest with
  | nil => exact absurd left more
  | cons => simp [next, left]

theorem gather_follows {verbose : Bool} {accept : Char → Bool} (comment : Bool) (rest : List Char)
    (offset : Nat) : Follows ⟨rest, offset, comment⟩ (gather verbose accept comment rest offset).2 := by
  induction rest generalizing comment offset with
  | nil => exact Follows.refl _
  | cons c rest ih =>
    have onward {comment : Bool} {t' : Tape} (later : Follows ⟨rest, offset + 1, comment⟩ t') {before : Bool} :
        Follows ⟨c :: rest, offset, before⟩ t' := by
      refine ⟨later.suffix.trans (List.suffix_cons c rest), ?_, by simp⟩
      have total := later.total
      simp only [List.length_cons] at total ⊢
      omega
    cases comment with
    | true => exact onward (ih _ _)
    | false =>
      rw [gather]
      split
      · exact onward (ih _ _)
      · split
        · exact onward (ih _ _)
        · split
          · exact onward (ih _ _)
          · exact Follows.refl _

theorem takeSpaced_follows (t : Tape) (verbose : Bool) (accept : Char → Bool) :
    t.Follows (t.takeSpaced verbose accept).2 := gather_follows t.openComment t.rest t.offset

theorem skipBlanks_follows (t : Tape) (verbose : Bool) : t.Follows (t.skipBlanks verbose) :=
  t.takeSpaced_follows verbose _

theorem nextSpaced_follows (t : Tape) (verbose : Bool) : t.Follows (t.nextSpaced verbose) :=
  t.next_follows.trans (t.next.skipBlanks_follows verbose)

theorem drop_follows (t : Tape) {count : Nat} (within : count ≤ t.rest.length) :
    t.Follows { t with rest := t.rest.drop count, offset := t.offset + count } := by
  refine ⟨List.drop_suffix count t.rest, ?_, ?_⟩
  · simp only [List.length_drop]
    omega
  · intro none
    rw [none, List.length_nil, Nat.le_zero] at within
    subst within
    rfl

theorem skipWhite_follows (t : Tape) : t.Follows t.skipWhite :=
  t.drop_follows (List.takeWhile_sublist _).length_le

theorem skip?_follows {t t' : Tape} {word : List Char} (skipped : t.skip? word = some t') : t.Follows t' := by
  unfold skip? at skipped
  split at skipped
  · next starts =>
    cases skipped
    exact t.drop_follows (List.isPrefixOf_iff_prefix.mp starts).length_le
  · simp at skipped

end Tape

/-- What stands around a pattern inside of a group: a line feed closes an open comment, and more follows
behind the closing parenthesis. -/
structure Surroundings where
  closing : Bool
  after : List Char

namespace Surroundings

/-- What follows a tape, if the pattern is not in a comment any more or not yet behind it. -/
def tail (c : Surroundings) (openComment : Bool) : List Char :=
  (if c.closing && !openComment then ['\n'] else []) ++ ')' :: c.after

theorem tail_cons (c : Surroundings) (openComment : Bool) :
    ∃ first more, c.tail openComment = first :: more ∧ (first = '\n' ∨ first = ')') := by
  unfold tail
  split
  · exact ⟨'\n', ')' :: c.after, rfl, .inl rfl⟩
  · exact ⟨')', c.after, rfl, .inr rfl⟩

/-- The tape may be the last one of the pattern: it ends inside a comment just where the surroundings say. -/
def Fits (c : Surroundings) (t : Tape) : Prop := t.rest = [] → t.openComment = c.closing

theorem Fits.back {c : Surroundings} {t t' : Tape} (fits : c.Fits t') (follows : t.Follows t') : c.Fits t := by
  intro none
  have same := follows.ended none
  subst same
  exact fits none

theorem fits_of_rest {c : Surroundings} {t : Tape} (more : t.rest ≠ []) : c.Fits t :=
  fun none => absurd none more

end Surroundings

/-- The second tape is the first one inside of a group. -/
structure Inside (c : Surroundings) (t T : Tape) : Prop where
  rest : T.rest = t.rest ++ c.tail t.openComment
  comment : T.openComment = false
  done : t.openComment = true → t.rest = []

namespace Inside
variable {c : Surroundings} {t t' T : Tape}
open Surroundings (Fits)

theorem openComment (inside : Inside c t T) (more : t.rest ≠ []) : t.openComment = false := by
  cases comment : t.openComment with
  | false => rfl
  | true => exact absurd (inside.done comment) more

theorem cons {first : Char} {rest : List Char} (inside : Inside c t T) (left : t.rest = first :: rest) :
    T.rest = first :: (rest ++ c.tail false) := by
  rw [inside.rest, inside.openComment (by simp [left]), left]
  rfl

/-- Where the pattern ends, the group is closed. -/
theorem ended (inside : Inside c t T) (fits : Fits c t) (none : t.rest = []) : T.rest = ')' :: c.after := by
  rw [inside.rest, none, fits none, Surroundings.tail]
  cases c.closing <;> rfl

theorem next (inside : Inside c t T) (more : t.rest ≠ []) : Inside c t.next T.next := by
  cases left : t.rest with
  | nil => exact absurd left more
  | cons first rest =>
    have comment := inside.openComment more
    have step : t.next = ⟨rest, t.offset + 1, t.openComment⟩ := by simp [Tape.next, left]
    have stepInside : T.next = ⟨rest ++ c.tail false, T.offset + 1, T.openComment⟩ := by
      simp [Tape.next, inside.cons left]
    rw [step, stepInside]
    exact ⟨by rw [comment], inside.comment, by simp [comment]⟩

theorem peek_iff {x : Char} (inside : Inside c t T) (feed : x ≠ '\n') (close : x ≠ ')') :
    T.peek? = some x ↔ t.peek? = some x := by
  unfold Tape.peek?
  cases left : t.rest with
  | nil =>
    obtain ⟨first, more, tail, ends⟩ := c.tail_cons t.openComment
    rw [inside.rest, left, List.nil_append, tail]
    rcases ends with rfl | rfl
    · simp [feed.symm]
    · simp [close.symm]
  | cons first rest =>
    rw [inside.cons left]
    simp

theorem gather {verbose comment : Bool} {accept : Char → Bool} {rest taken : List Char} {offset : Nat}
    (start : Nat) (gathered : Tape.gather verbose accept comment rest offset = (taken, t')) (fits : Fits c t')
    (stops : t'.rest = [] → accept ')' = false) :
    ∃ T', Tape.gather verbose accept comment (rest ++ c.tail false) start = (taken, T') ∧ Inside c t' T' := by
  have blank : Unicode.isBlank ')' = false := by decide
  induction rest generalizing comment offset start taken with
  | nil =>
    rw [Tape.gather, Prod.mk.injEq] at gathered
    obtain ⟨rfl, rfl⟩ := gathered
    have closing := fits rfl
    simp only at closing
    subst closing
    have refused := stops rfl
    cases comment : c.closing with
    | true =>
      refine ⟨⟨')' :: c.after, start + 1, false⟩, ?_, ?_⟩
      · simp [Surroundings.tail, comment, Tape.gather, blank, refused]
      · exact ⟨by simp [Surroundings.tail], rfl, fun _ => rfl⟩
    | false =>
      refine ⟨⟨')' :: c.after, start, false⟩, ?_, ?_⟩
      · simp [Surroundings.tail, comment, Tape.gather, blank, refused]
      · exact ⟨by simp [Surroundings.tail, comment], rfl, fun _ => rfl⟩
  | cons x rest ih =>
    cases comment with
    | true =>
      rw [Tape.gather] at gathered
      rw [List.cons_append, Tape.gather]
      exact ih (start + 1) gathered
    | false =>
      rw [Tape.gather] at gathered
      rw [List.cons_append, Tape.gather]
      split
      · next spaced =>
        rw [if_pos spaced] at gathered
        exact ih (start + 1) gathered
      · next solid =>
        rw [if_neg solid] at gathered
        split
        · next sharp =>
          rw [if_pos sharp] at gathered
          exact ih (start + 1) gathered
        · next plain =>
          rw [if_neg plain] at gathered
          split
          · next accepted =>
            rw [if_pos accepted] at gathered
            simp only [Prod.mk.injEq] at gathered
            obtain ⟨rfl, last⟩ := gathered
            obtain ⟨T', found, placed⟩ := ih (start + 1) (Prod.ext rfl last)
            exact ⟨T', by simp [found], placed⟩
          · next refused =>
            rw [if_neg refused, Prod.mk.injEq] at gathered
            obtain ⟨rfl, rfl⟩ := gathered
            exact ⟨_, rfl, rfl, rfl, by simp⟩

theorem takeSpaced {verbose : Bool} {accept : Char → Bool} {taken : List Char} (inside : Inside c t T)
    (gathered : t.takeSpaced verbose accept = (taken, t')) (fits : Fits c t')
    (stops : t'.rest = [] → accept ')' = false) :
    ∃ T', T.takeSpaced verbose accept = (taken, T') ∧ Inside c t' T' := by
  unfold Tape.takeSpaced at gathered ⊢
  rw [inside.rest, inside.comment]
  cases comment : t.openComment with
  | false =>
    rw [comment] at gathered
    exact gather T.offset gathered fits stops
  | true =>
    -- A tape in a comment has come to its end already, and the line feed is behind it.
    rw [inside.done comment, comment, Tape.gather, Prod.mk.injEq] at gathered
    obtain ⟨rfl, rfl⟩ := gathered
    have refused := stops rfl
    have blank : Unicode.isBlank ')' = false := by decide
    refine ⟨⟨')' :: c.after, T.offset, false⟩, ?_, ?_⟩
    · simp [inside.done comment, Surroundings.tail, Tape.gather, blank, refused]
    · exact ⟨by simp [Surroundings.tail], rfl, fun _ => rfl⟩

theorem skipBlanks {verbose : Bool} (inside : Inside c t T) (fits : Fits c (t.skipBlanks verbose)) :
    Inside c (t.skipBlanks verbose) (T.skipBlanks verbose) := by
  obtain ⟨T', found, placed⟩ := inside.takeSpaced (Prod.ext rfl rfl) fits fun _ => rfl
  unfold Tape.skipBlanks
  rw [found]
  exact placed

theorem nextSpaced {verbose : Bool} (inside : Inside c t T) (more : t.rest ≠ [])
    (fits : Fits c (t.nextSpaced verbose)) : Inside c (t.nextSpaced verbose) (T.nextSpaced verbose) :=
  (inside.next more).skipBlanks fits

theorem skipWhite (inside : Inside c t T) (more : t.skipWhite.rest ≠ []) : Inside c t.skipWhite T.skipWhite := by
  have left : t.rest ≠ [] := fun none => more (by simp [Tape.skipWhite, none])
  have comment := inside.openComment left
  have short : (t.rest.takeWhile Unicode.isBlank).length ≠ t.rest.length := by
    intro all
    exact more (by simp [Tape.skipWhite, all])
  have white : T.rest.takeWhile Unicode.isBlank = t.rest.takeWhile Unicode.isBlank := by
    rw [inside.rest, List.takeWhile_append, if_neg short]
  refine ⟨?_, inside.comment, by simp [Tape.skipWhite, comment]⟩
  simp only [Tape.skipWhite, white]
  rw [inside.rest, List.drop_append_of_le_length (List.takeWhile_sublist _).length_le]

/-- A word without line feeds and closing parentheses starts the rest inside just if it does so alone. -/
theorem isPrefixOf {word : List Char} (inside : Inside c t T) (feed : '\n' ∉ word) (close : ')' ∉ word) :
    word.isPrefixOf T.rest = word.isPrefixOf t.rest := by
  obtain ⟨first, more, tail, ends⟩ := c.tail_cons t.openComment
  rw [inside.rest, tail]
  generalize t.rest = rest
  induction word generalizing rest with
  | nil => rfl
  | cons x word ih =>
    cases rest with
    | nil =>
      have other : x ≠ first := by
        rintro rfl
        rcases ends with rfl | rfl
        · exact feed List.mem_cons_self
        · exact close List.mem_cons_self
      rw [List.nil_append, List.isPrefixOf_cons_cons, beq_false_of_ne other]
      rfl
    | cons y rest =>
      simp only [List.cons_append, List.isPrefixOf_cons_cons]
      rw [ih (fun member => feed (List.mem_cons_of_mem x member)) fun member =>
        close (List.mem_cons_of_mem x member)]

theorem skip_none {word : List Char} (inside : Inside c t T) (feed : '\n' ∉ word) (close : ')' ∉ word)
    (skipped : t.skip? word = none) : T.skip? word = none := by
  unfold Tape.skip? at skipped ⊢
  rw [inside.isPrefixOf feed close]
  split at skipped
  · simp at skipped
  · next other => rw [if_neg other]

theorem skip_some {word : List Char} (inside : Inside c t T) (feed : '\n' ∉ word) (close : ')' ∉ word)
    (some : word ≠ []) (skipped : t.skip? word = .some t') :
    ∃ T', T.skip? word = .some T' ∧ Inside c t' T' := by
  unfold Tape.skip? at skipped ⊢
  rw [inside.isPrefixOf feed close]
  split at skipped
  · next starts =>
    cases skipped
    have within := (List.isPrefixOf_iff_prefix.mp starts).length_le
    have left : t.rest ≠ [] := by
      intro none
      rw [none, List.length_nil, Nat.le_zero, List.length_eq_zero_iff] at within
      exact some within
    rw [if_pos starts]
    refine ⟨_, rfl, ?_, inside.comment, ?_⟩
    · simp only
      rw [inside.rest, List.drop_append_of_le_length within]
    · simp [inside.openComment left]
  · simp at skipped

end Inside

namespace Tape
open Lexicon.Unicode (isBlank)

/-- What `peekSpaced?` looks at in verbose mode: the rest behind blanks and one `#`. -/
def ahead (rest : List Char) : List Char :=
  match rest.dropWhile isBlank with
  | '#' :: more => more.dropWhile isBlank
  | more => more

theorem peekSpaced_eq (t : Tape) (verbose : Bool) : t.peekSpaced? verbose =
    if verbose then (ahead (t.rest.drop 1)).head?.or (t.rest.drop 1).head? else (t.rest.drop 1).head? := rfl

theorem dropWhile_append {rest : List Char} (more : List Char) (some : rest.dropWhile isBlank ≠ []) :
    (rest ++ more).dropWhile isBlank = rest.dropWhile isBlank ++ more := by
  induction rest with
  | nil => simp at some
  | cons c rest ih =>
    rw [List.dropWhile_cons] at some
    rw [List.cons_append, List.dropWhile_cons, List.dropWhile_cons]
    split
    · next blank =>
      rw [if_pos blank] at some
      exact ih some
    · rfl

theorem ahead_append {rest : List Char} (more : List Char) (some : ahead rest ≠ []) :
    ahead (rest ++ more) = ahead rest ++ more := by
  unfold ahead at some ⊢
  cases left : rest.dropWhile isBlank with
  | nil => simp [left] at some
  | cons c behind =>
    rw [dropWhile_append more (by simp [left]), left, List.cons_append]
    rw [left] at some
    by_cases sharp : c = '#'
    · subst sharp
      exact dropWhile_append more some
    · simp [sharp]

/-- Blanks are passed over to the end, inside of a comment too. -/
theorem gather_blanks {accept : Char → Bool} {rest : List Char} (comment : Bool) (offset : Nat)
    (blanks : rest.dropWhile isBlank = []) : (gather true accept comment rest offset).2.rest = [] := by
  induction rest generalizing comment offset with
  | nil => rfl
  | cons c rest ih =>
    rw [List.dropWhile_cons] at blanks
    split at blanks
    · next blank =>
      cases comment with
      | true => exact ih _ _ blanks
      | false =>
        rw [gather, blank, Bool.true_and, if_pos rfl]
        exact ih _ _ blanks
    · simp at blanks

theorem gather_ahead {accept : Char → Bool} {rest : List Char} (offset : Nat) (none : ahead rest = []) :
    (gather true accept false rest offset).2.rest = [] := by
  induction rest generalizing offset with
  | nil => rfl
  | cons c rest ih =>
    rw [gather, Bool.true_and, Bool.true_and]
    split
    · next blank =>
      apply ih
      rw [ahead, List.dropWhile_cons, if_pos blank] at none
      exact none
    · next solid =>
      rw [ahead, List.dropWhile_cons, if_neg solid] at none
      split
      · next sharp =>
        rw [beq_iff_eq.mp sharp] at none
        exact gather_blanks _ _ none
      · next other =>
        have differs : c ≠ '#' := by simpa using other
        simp [differs] at none

/-- Where nothing is ahead, the next character is a blank or a `#`. -/
theorem head_of_ahead {rest : List Char} {c : Char} (none : ahead rest = []) (head : rest.head? = some c) :
    isBlank c = true ∨ c = '#' := by
  cases rest with
  | nil => simp at head
  | cons first rest =>
    rw [List.head?_cons, Option.some.injEq] at head
    subst head
    by_cases blank : isBlank first = true
    · exact .inl blank
    · refine .inr ?_
      rw [ahead, List.dropWhile_cons, if_neg blank] at none
      by_cases sharp : first = '#'
      · exact sharp
      · simp [sharp] at none

end Tape

/-- Looking ahead sees the same inside, unless the pattern ends before anything else is seen. -/
theorem Inside.peekSpaced {c : Surroundings} {t T : Tape} (inside : Inside c t T) (verbose : Bool)
    (more : t.rest ≠ []) : T.peekSpaced? verbose = t.peekSpaced? verbose ∨
      ((t.nextSpaced verbose).rest = [] ∧ t.peekSpaced? verbose ≠ some ']' ∧ t.peekSpaced? verbose ≠ some '-') := by
  cases left : t.rest with
  | nil => exact absurd left more
  | cons first rest =>
    have next : t.next = ⟨rest, t.offset + 1, false⟩ := by simp [Tape.next, left, inside.openComment more]
    rw [Tape.peekSpaced_eq, Tape.peekSpaced_eq, inside.cons left, left, List.drop_one, List.drop_one,
      List.tail_cons, List.tail_cons, Tape.nextSpaced, next, Tape.skipBlanks, Tape.takeSpaced]
    cases verbose with
    | false =>
      cases rest with
      | nil => exact .inr (by simp [Tape.gather])
      | cons second rest => exact .inl rfl
    | true =>
      simp only [if_true]
      by_cases none : Tape.ahead rest = []
      · refine .inr ⟨Tape.gather_ahead _ none, ?_⟩
        rw [none, List.head?_nil, Option.none_or]
        constructor
        · intro head
          rcases Tape.head_of_ahead none head with blank | sharp
          · exact absurd blank (by decide)
          · exact absurd sharp (by decide)
        · intro head
          rcases Tape.head_of_ahead none head with blank | sharp
          · exact absurd blank (by decide)
          · exact absurd sharp (by decide)
      · left
        cases seen : Tape.ahead rest with
        | nil => exact absurd seen none
        | cons second behind =>
          rw [Tape.ahead_append _ none, seen]
          rfl

end Lexicon.Regex

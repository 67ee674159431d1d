import Lexicon.Regex.Header
import Lexicon.Proofs.Regex.Reading.Escape

/-! What repeats a part and what opens a group, read alone and inside of a group. -/
namespace Lexicon.Regex
open Surroundings (Fits)

section
variable {c : Surroundings} {t T : Tape} {verbose : Bool}

namespace Count

theorem decimal_follows (verbose : Bool) (t : Tape) : t.Follows (decimal verbose t).2 := by
  simp only [decimal]
  have spaced := (t.skipWhite_follows.trans (t.skipWhite.takeSpaced_follows verbose Char.isDigit)).trans
    ((Tape.skipWhite_follows _).trans (Tape.skipBlanks_follows _ verbose))
  split
  · exact spaced
  · split <;> exact spaced

theorem decimal_inside (inside : Inside c t T) (more : (decimal verbose t).2.rest ≠ []) :
    Inside c (decimal verbose t).2 (decimal verbose T).2 ∧
      ∀ n, (decimal verbose t).1 = .ok n → (decimal verbose T).1 = .ok n := by
  cases taken : t.skipWhite.takeSpaced verbose Char.isDigit with
  | mk digits t1 =>
    have behind : (decimal verbose t).2 = t1.skipWhite.skipBlanks verbose := by
      simp only [decimal, taken]
      split
      · rfl
      · split <;> rfl
    rw [behind] at more
    have white : t1.skipWhite.rest ≠ [] := fun none =>
      more (by rw [(t1.skipWhite.skipBlanks_follows verbose).ended none, none])
    have unread : t1.rest ≠ [] := fun none => white (by rw [t1.skipWhite_follows.ended none, none])
    have followed : t.skipWhite.Follows t1 := by
      have spaced := t.skipWhite.takeSpaced_follows verbose Char.isDigit
      rwa [taken] at spaced
    have start : t.skipWhite.rest ≠ [] := fun none => unread (by rw [followed.ended none, none])
    obtain ⟨T1, takenInside, placed⟩ := (inside.skipWhite start).takeSpaced taken
      (Surroundings.fits_of_rest unread) fun none => absurd none unread
    have last : Inside c (t1.skipWhite.skipBlanks verbose) (T1.skipWhite.skipBlanks verbose) :=
      (placed.skipWhite white).skipBlanks (Surroundings.fits_of_rest more)
    simp only [decimal, taken, takenInside]
    split
    · exact ⟨last, by simp⟩
    · split
      · exact ⟨last, fun n found => found⟩
      · exact ⟨last, by simp⟩

/-- The numbers are read up to the closing brace. -/
theorem range_follows {start : Nat} {count : Count} {t t' : Tape}
    (read : range verbose start t = .ok (count, t')) : t.Follows t' ∧ t'.peek? = some '\x7d' := by
  simp only [range] at read
  have first := decimal_follows verbose t
  split at read
  · simp at read
  · split at read
    · simp at read
    · split at read
      · split at read
        · simp at read
        · split at read
          · next brace =>
            cases least : (decimal verbose t).1 with
            | error e => simp [least, Except.map] at read
            | ok n =>
              simp only [least, Except.map, Except.ok.injEq, Prod.mk.injEq] at read
              rw [← read.2]
              exact ⟨first.trans (Tape.nextSpaced_follows _ _), brace⟩
          · split at read
            · simp at read
            · split at read
              · simp at read
              · split at read
                · next brace =>
                  cases read
                  exact ⟨(first.trans (Tape.nextSpaced_follows _ _)).trans (decimal_follows _ _), brace⟩
                · simp at read
      · split at read
        · simp at read
        · split at read
          · next brace =>
            cases read
            exact ⟨first, brace⟩
          · simp at read

theorem range_agrees (start place : Nat) (inside : Inside c t T) :
    Agrees c Eq (range verbose start t) (range verbose place T) := by
  have unended {t T : Tape} (inside : Inside c t T) : T.rest.isEmpty = false := by
    obtain ⟨first, more, tail, -⟩ := c.tail_cons t.openComment
    simp [inside.rest, tail]
  intro count t' read fits
  simp only [range] at read ⊢
  split at read
  · simp at read
  · split at read
    · simp at read
    · next some =>
      have some : (decimal verbose t).2.rest ≠ [] := by simpa using some
      obtain ⟨first, least⟩ := decimal_inside inside some
      simp only [unended inside, unended first, Bool.false_eq_true, if_false,
        first.peek_iff (x := ',') (by decide) (by decide)]
      split at read
      · next comma =>
        rw [if_pos comma]
        split at read
        · simp at read
        · next more =>
          have more : ((decimal verbose t).2.nextSpaced verbose).rest ≠ [] := by simpa using more
          have second := first.nextSpaced some (Surroundings.fits_of_rest more)
          simp only [unended second, Bool.false_eq_true, if_false,
            second.peek_iff (x := '\x7d') (by decide) (by decide)]
          split at read
          · next brace =>
            rw [if_pos brace]
            cases found : (decimal verbose t).1 with
            | error e => simp [found, Except.map] at read
            | ok n =>
              simp only [found, Except.map, Except.ok.injEq, Prod.mk.injEq] at read
              obtain ⟨rfl, rfl⟩ := read
              rw [least n found]
              exact ⟨_, _, rfl, rfl, second⟩
          · next bounded =>
            rw [if_neg bounded]
            split at read
            · simp at read
            · next n found =>
              rw [least n found]
              simp only
              split at read
              · simp at read
              · next m most =>
                split at read
                · next brace =>
                  cases read
                  have unread : (decimal verbose ((decimal verbose t).2.nextSpaced verbose)).2.rest ≠ [] := by
                    intro none
                    simp [Tape.peek?, none] at brace
                  obtain ⟨third, highest⟩ := decimal_inside second unread
                  rw [highest m most]
                  simp only [third.peek_iff (x := '\x7d') (by decide) (by decide), brace, if_true]
                  exact ⟨_, _, rfl, rfl, third⟩
                · simp at read
      · next single =>
        rw [if_neg single]
        split at read
        · simp at read
        · next n found =>
          rw [least n found]
          split at read
          · next brace =>
            cases read
            simp only [first.peek_iff (x := '\x7d') (by decide) (by decide), brace, if_true]
            exact ⟨_, _, rfl, rfl, first⟩
          · simp at read

theorem greed_follows (t : Tape) : t.Follows (greed t).2 := by
  unfold greed
  split
  · exact t.next_follows
  · exact .refl t

theorem greed_inside (inside : Inside c t T) : (greed T).1 = (greed t).1 ∧ Inside c (greed t).2 (greed T).2 := by
  have asked := inside.peek_iff (x := '?') (by decide) (by decide)
  unfold greed
  by_cases lazy : t.peek? = some '?'
  · rw [if_pos lazy, if_pos (asked.mpr lazy)]
    refine ⟨rfl, inside.next fun none => ?_⟩
    simp [Tape.peek?, none] at lazy
  · rw [if_neg lazy, if_neg fun other => lazy (asked.mp other)]
    exact ⟨rfl, inside⟩

theorem read_follows {count : Count} {greedy : Bool} {t' : Tape} (x : Char)
    (found : read verbose x t = .ok (count, greedy, t')) : t.next.Follows t' := by
  unfold read at found
  split at found
  iterate 3
    simp only [Except.ok.injEq, Prod.mk.injEq] at found
    rw [← found.2.2]
    exact greed_follows t.next
  split at found
  · simp at found
  · next ranged =>
    simp only at found
    split at found
    · simp at found
    · simp only [Except.ok.injEq, Prod.mk.injEq] at found
      rw [← found.2.2]
      exact (((Tape.skipBlanks_follows _ _).trans (range_follows ranged).1).trans
        (Tape.nextSpaced_follows _ _)).trans (greed_follows _)

theorem read_inside {count : Count} {greedy : Bool} {t' : Tape} (x : Char) (inside : Inside c t T)
    (more : t.rest ≠ []) (found : read verbose x t = .ok (count, greedy, t')) (fits : Fits c t') :
    ∃ T', read verbose x T = .ok (count, greedy, T') ∧ Inside c t' T' := by
  unfold read at found ⊢
  split at found
  iterate 3
    obtain ⟨same, placed⟩ := greed_inside (inside.next more)
    simp only [Except.ok.injEq, Prod.mk.injEq] at found
    obtain ⟨rfl, rfl, rfl⟩ := found
    exact ⟨_, by rw [← same], placed⟩
  next question star plus =>
  split at found
  · simp at found
  · next bounds t1 ranged =>
    simp only at found
    split at found
    · simp at found
    · next ordered =>
      simp only [Except.ok.injEq, Prod.mk.injEq] at found
      obtain ⟨rfl, rfl, rfl⟩ := found
      have behind := fits.back (greed_follows _)
      have early := behind.back (Tape.nextSpaced_follows t1 verbose)
      have start := early.back (range_follows ranged).1
      have unread : t1.rest ≠ [] := by
        intro none
        have brace := (range_follows ranged).2
        simp [Tape.peek?, none] at brace
      obtain ⟨bounds, T1, rangedInside, rfl, placed⟩ :=
        range_agrees t.offset T.offset (inside.nextSpaced more start) ranged early
      obtain ⟨same, last⟩ := greed_inside (placed.nextSpaced unread behind)
      simp only [rangedInside, ordered]
      exact ⟨_, by rw [← same]; rfl, last⟩

end Count

namespace Header

def shape : Header → Header
  | .capture => .capture
  | .named name _ => .named name (.point 0)
  | .plain items => .plain items.shape
  | .setFlags items => .setFlags items.shape

/-- Two headers are the same but for their stretches. -/
def Like (h g : Header) : Prop := h.shape = g.shape

theorem earlier_shape {items other : FlagItems} (same : items.shape = other.shape) (item : FlagItem) :
    (earlier? items item).isSome = (earlier? other item).isSome := by
  have kinds : items.map (·.2) = other.map (·.2) := by
    simpa [FlagItems.shape, Function.comp_def] using congrArg (List.map Prod.snd) same
  have among (items : FlagItems) : (earlier? items item).isSome = (items.map (·.2)).contains item := by
    rw [earlier?, Option.isSome_map, Bool.eq_iff_iff]
    simp only [List.find?_isSome, List.contains_iff_mem, List.mem_map, decide_eq_true_eq]
  rw [among, among, kinds]

theorem last_shape {items other : FlagItems} (same : items.shape = other.shape) :
    items.getLast?.map (·.2) = other.getLast?.map (·.2) := by
  have kinds : items.map (·.2) = other.map (·.2) := by
    simpa [FlagItems.shape, Function.comp_def] using congrArg (List.map Prod.snd) same
  rw [← List.getLast?_map, ← List.getLast?_map, kinds]

theorem flags_follows {items found : FlagItems} {close : Char} {rest left : List Char} {offset stop : Nat}
    (read : flags items rest offset = .ok (found, close, left, stop)) :
    left <:+ rest ∧ stop + left.length = offset + rest.length ∧ rest ≠ [] := by
  induction rest generalizing items offset with
  | nil => simp [flags] at read
  | cons x rest ih =>
    have onward {items : FlagItems} (read : flags items rest (offset + 1) = .ok (found, close, left, stop)) :
        left <:+ x :: rest ∧ stop + left.length = offset + (x :: rest).length ∧ x :: rest ≠ [] := by
      obtain ⟨suffix, total, -⟩ := ih read
      refine ⟨suffix.trans (List.suffix_cons x rest), ?_, by simp⟩
      rw [total, List.length_cons]
      omega
    unfold flags at read
    split at read
    · split at read
      · simp at read
      · simp only [Except.ok.injEq, Prod.mk.injEq] at read
        obtain ⟨-, -, rfl, rfl⟩ := read
        refine ⟨List.suffix_cons x rest, ?_, by simp⟩
        rw [List.length_cons]
        omega
    · split at read
      · split at read
        · simp at read
        · exact onward read
      · split at read
        · simp at read
        · split at read
          · simp at read
          · exact onward read

theorem flags_inside {items other found : FlagItems} {close : Char} {rest left : List Char} {offset stop : Nat}
    (more : List Char) (start : Nat) (same : items.shape = other.shape)
    (read : flags items rest offset = .ok (found, close, left, stop)) :
    ∃ again stopInside, flags other (rest ++ more) start = .ok (again, close, left ++ more, stopInside) ∧
      found.shape = again.shape := by
  induction rest generalizing items other offset start with
  | nil => simp [flags] at read
  | cons x rest ih =>
    have grown (a b : Span) (item : FlagItem) :
        FlagItems.shape (items ++ [(a, item)]) = FlagItems.shape (other ++ [(b, item)]) := by
      simp only [FlagItems.shape, List.map_append, List.map_singleton] at same ⊢
      rw [same]
    unfold flags at read
    rw [List.cons_append]
    unfold flags
    split at read
    · next ends =>
      rw [if_pos ends]
      have last := last_shape same
      split at read
      · simp at read
      · next allowed =>
        simp only [Except.ok.injEq, Prod.mk.injEq] at read
        obtain ⟨rfl, rfl, rfl, rfl⟩ := read
        split
        · next dangling =>
          rw [dangling] at last
          cases found : items.getLast? with
          | none => simp [found] at last
          | some entry =>
            obtain ⟨span, item⟩ := entry
            simp only [found, Option.map_some, Option.some.injEq] at last
            subst last
            exact absurd found (allowed span)
        · exact ⟨_, _, rfl, same⟩
    · next onward =>
      rw [if_neg onward]
      split at read
      · next hyphen =>
        rw [if_pos hyphen]
        have repeated := earlier_shape same .negation
        split at read
        · simp at read
        · next first =>
          rw [first, Option.isSome_none, eq_comm, Option.isSome_eq_false_iff, Option.isNone_iff_eq_none] at repeated
          rw [repeated]
          exact ih (start + 1) (grown _ _ _) read
      · next letter =>
        rw [if_neg letter]
        split at read
        · simp at read
        · next f known =>
          have repeated := earlier_shape same (.flag f)
          split at read
          · simp at read
          · next first =>
            rw [first, Option.isSome_none, eq_comm, Option.isSome_eq_false_iff, Option.isNone_iff_eq_none]
              at repeated
            simp only [repeated]
            exact ih (start + 1) (grown _ _ _) read

theorem nameChars_follows {first : Bool} {rest name left : List Char} {offset stop : Nat}
    (read : nameChars first rest offset = .ok (name, left, stop)) :
    left <:+ rest ∧ stop + left.length = offset + rest.length ∧ rest ≠ [] := by
  induction rest generalizing first name offset with
  | nil => simp [nameChars] at read
  | cons x rest ih =>
    unfold nameChars at read
    by_cases close : x = '>'
    · simp only [if_pos close, Except.ok.injEq, Prod.mk.injEq] at read
      obtain ⟨-, rfl, rfl⟩ := read
      refine ⟨List.suffix_cons x rest, ?_, by simp⟩
      rw [List.length_cons]
      omega
    · rw [if_neg close] at read
      generalize (if first = true then isNameStart x else isNameChar x) = allowed at read
      cases allowed with
      | false => simp at read
      | true =>
        rw [if_pos rfl] at read
        split at read
        · simp at read
        · next found =>
          simp only [Except.ok.injEq, Prod.mk.injEq] at read
          obtain ⟨-, rfl, rfl⟩ := read
          obtain ⟨suffix, total, -⟩ := ih found
          refine ⟨suffix.trans (List.suffix_cons x rest), ?_, by simp⟩
          rw [total, List.length_cons]
          omega

theorem nameChars_inside {first : Bool} {rest name left : List Char} {offset stop : Nat} (more : List Char)
    (start : Nat) (read : nameChars first rest offset = .ok (name, left, stop)) :
    ∃ stopInside, nameChars first (rest ++ more) start = .ok (name, left ++ more, stopInside) := by
  induction rest generalizing first name offset start with
  | nil => simp [nameChars] at read
  | cons x rest ih =>
    unfold nameChars at read
    rw [List.cons_append]
    unfold nameChars
    by_cases close : x = '>'
    · simp only [if_pos close, Except.ok.injEq, Prod.mk.injEq] at read
      obtain ⟨rfl, rfl, rfl⟩ := read
      rw [if_pos close]
      exact ⟨_, rfl⟩
    · rw [if_neg close] at read ⊢
      generalize (if first = true then isNameStart x else isNameChar x) = allowed at read ⊢
      cases allowed with
      | false => simp at read
      | true =>
        rw [if_pos rfl] at read ⊢
        split at read
        · simp at read
        · next found =>
          simp only [Except.ok.injEq, Prod.mk.injEq] at read
          obtain ⟨rfl, rfl, rfl⟩ := read
          obtain ⟨stopInside, foundInside⟩ := ih (start + 1) found
          rw [foundInside]
          exact ⟨_, rfl⟩

theorem name_follows (t : Tape) : t.Reads (name t) := by
  intro h t' read
  unfold name at read
  split at read
  · simp at read
  · next found =>
    split at read
    · simp at read
    · cases read
      obtain ⟨suffix, total, some⟩ := nameChars_follows found
      exact ⟨suffix, total, fun none => absurd none some⟩

theorem name_agrees (inside : Inside c t T) : Agrees c Like (name t) (name T) := by
  intro h t' read fits
  unfold name at read ⊢
  split at read
  · simp at read
  · next found =>
    split at read
    · simp at read
    · next some =>
      cases read
      have comment := inside.openComment (nameChars_follows found).2.2
      obtain ⟨stop, foundInside⟩ := nameChars_inside (c.tail false) T.offset found
      rw [inside.rest, comment, foundInside]
      simp only [if_neg some]
      exact ⟨_, _, rfl, rfl, rfl, inside.comment, by simp⟩

theorem read_follows (verbose : Bool) (t : Tape) : (t.nextSpaced verbose).Reads (read verbose t) := by
  intro h t' found
  simp only [read] at found
  split at found
  · simp at found
  · split at found
    · next skipped =>
      rcases Option.or_eq_some_iff.mp skipped with first | ⟨-, second⟩
      · exact (Tape.skip?_follows first).trans (name_follows _ found)
      · exact (Tape.skip?_follows second).trans (name_follows _ found)
    · split at found
      · cases found
        exact .refl _
      · next t1 skipped =>
        split at found
        · simp at found
        · split at found
          · simp at found
          · next items close rest offset flagged =>
            obtain ⟨suffix, total, some⟩ := flags_follows flagged
            have last : t1.Follows ⟨rest, offset, t1.openComment⟩ := ⟨suffix, total, fun none => absurd none some⟩
            have whole := (Tape.skip?_follows skipped).trans last
            split at found
            · cases found
              exact whole
            · split at found
              · simp at found
              · cases found
                exact whole

theorem read_agrees (inside : Inside c t T) (more : t.rest ≠ []) :
    Agrees c Like (read verbose t) (read verbose T) := by
  intro h t' found fits
  have placed := inside.nextSpaced more (fits.back (read_follows verbose t found))
  simp only [read] at found ⊢
  split at found
  · simp at found
  · next around =>
    have aroundInside : lookAroundMarks.findSome? (T.nextSpaced verbose).skip? = none := by
      rw [List.findSome?_eq_none_iff] at around ⊢
      intro word member
      have plain : ∀ word ∈ lookAroundMarks, '\n' ∉ word ∧ ')' ∉ word := by decide
      exact placed.skip_none (plain word member).1 (plain word member).2 (around word member)
    rw [aroundInside]
    simp only
    split at found
    · next t1 skipped =>
      have skippedInside : ∃ T1, ((T.nextSpaced verbose).skip? ['?', 'P', '<']).or
          ((T.nextSpaced verbose).skip? ['?', '<']) = some T1 ∧ Inside c t1 T1 := by
        rcases Option.or_eq_some_iff.mp skipped with first | ⟨absent, second⟩
        · obtain ⟨T1, there, within⟩ := placed.skip_some (by decide) (by decide) (by decide) first
          exact ⟨T1, by rw [there, Option.some_or], within⟩
        · obtain ⟨T1, there, within⟩ := placed.skip_some (by decide) (by decide) (by decide) second
          exact ⟨T1, by rw [placed.skip_none (by decide) (by decide) absent, there, Option.none_or], within⟩
      obtain ⟨T1, there, within⟩ := skippedInside
      rw [there]
      exact name_agrees within found fits
    · next unnamed =>
      obtain ⟨first, second⟩ := Option.or_eq_none_iff.mp unnamed
      rw [placed.skip_none (by decide) (by decide) first, placed.skip_none (by decide) (by decide) second,
        Option.none_or]
      simp only
      split at found
      · next capturing =>
        cases found
        rw [placed.skip_none (by decide) (by decide) capturing]
        exact ⟨_, _, rfl, rfl, placed⟩
      · next t1 skipped =>
        obtain ⟨T1, there, within⟩ := placed.skip_some (by decide) (by decide) (by decide) skipped
        rw [there]
        split at found
        · simp at found
        · next some =>
          have some : t1.rest ≠ [] := by simpa using some
          have comment := within.openComment some
          have someInside : T1.rest.isEmpty = false := by simp [within.rest, some]
          simp only [someInside, Bool.false_eq_true, if_false]
          split at found
          · simp at found
          · next items close rest offset flagged =>
            obtain ⟨again, stop, flaggedInside, alike⟩ := flags_inside (c.tail false) T1.offset rfl flagged
            have last : Inside c ⟨rest, offset, t1.openComment⟩ ⟨rest ++ c.tail false, stop, T1.openComment⟩ :=
              ⟨by rw [comment], within.comment, by simp [comment]⟩
            rw [within.rest, comment, flaggedInside]
            simp only
            split at found
            · next colon =>
              cases found
              rw [if_pos colon]
              exact ⟨_, _, rfl, congrArg Header.plain alike, last⟩
            · next parenthesis =>
              rw [if_neg parenthesis]
              split at found
              · simp at found
              · next several =>
                cases found
                have severalInside : again.isEmpty = false := by
                  have counts := congrArg List.length alike
                  simp only [FlagItems.shape, List.length_map] at counts
                  cases again with
                  | nil => simp_all
                  | cons => rfl
                simp only [severalInside, Bool.false_eq_true, if_false]
                exact ⟨_, _, rfl, congrArg Header.setFlags alike, last⟩

end Header

end
end Lexicon.Regex

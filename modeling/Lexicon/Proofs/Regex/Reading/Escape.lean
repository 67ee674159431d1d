import Lexicon.Regex.Escape
import Lexicon.Proofs.Regex.Shape
import Lexicon.Proofs.Regex.Reading.Tape

/-! The smallest parts of a pattern, read alone and inside of a group. What is read is the same but for the
stretches it was read from. -/
namespace Lexicon.Regex
open Surroundings (Fits)

/-- Where reading alone succeeds, reading inside does so too, and to the same effect. -/
def Agrees {α : Type} (c : Surroundings) (like : α → α → Prop) (alone inside : Except Diagnostic (α × Tape)) :
    Prop :=
  ∀ ⦃x t'⦄, alone = .ok (x, t') → Fits c t' → ∃ y T', inside = .ok (y, T') ∧ like x y ∧ Inside c t' T'

/-- Reading goes on from a tape, if it succeeds. -/
def Tape.Reads {α : Type} (t : Tape) (outcome : Except Diagnostic (α × Tape)) : Prop :=
  ∀ ⦃x t'⦄, outcome = .ok (x, t') → t.Follows t'

def Primitive.shape : Primitive → Primitive
  | .literal l => .literal l.shape
  | .dot _ => .dot (.point 0)
  | .anchor _ a => .anchor (.point 0) a
  | .property _ negated query => .property (.point 0) negated query
  | .perl _ negated name => .perl (.point 0) negated name

/-- Two primitives are the same but for their stretches. -/
def Primitive.Like (p q : Primitive) : Prop := p.shape = q.shape

section
variable {c : Surroundings} {t T : Tape} {verbose : Bool}

namespace Escape

theorem hexDigits_follows (verbose : Bool) (count : Nat) (t : Tape) : t.Reads (hexDigits verbose count t) := by
  induction count generalizing t with
  | zero =>
    intro digits t' read
    cases read
    exact .refl t
  | succ count ih =>
    intro digits t' read
    rw [hexDigits] at read
    split at read
    · simp at read
    · split at read
      · split at read
        · simp at read
        · next found =>
          cases read
          exact (t.nextSpaced_follows verbose).trans (ih _ found)
      · simp at read

theorem hexDigits_agrees (count : Nat) (inside : Inside c t T) :
    Agrees c Eq (hexDigits verbose count t) (hexDigits verbose count T) := by
  induction count generalizing t T with
  | zero =>
    intro digits t' read fits
    cases read
    exact ⟨_, _, rfl, rfl, inside⟩
  | succ count ih =>
    intro digits t' read fits
    rw [hexDigits] at read ⊢
    split at read
    · simp at read
    · next x rest left =>
      rw [inside.cons left]
      simp only
      split at read
      · next digit =>
        rw [if_pos digit]
        split at read
        · simp at read
        · next found =>
          cases read
          have behind := fits.back (hexDigits_follows _ _ _ found)
          obtain ⟨more, T', foundInside, rfl, placed⟩ :=
            ih (inside.nextSpaced (by simp [left]) behind) found fits
          rw [foundInside]
          exact ⟨_, _, rfl, rfl, placed⟩
      · simp at read

theorem hexFixed_follows (verbose : Bool) (start count : Nat) (byte : Bool) (t : Tape) :
    t.Reads (hexFixed verbose start count byte t) := by
  intro p t' read
  rw [hexFixed] at read
  split at read
  · simp at read
  · next found =>
    split at read
    · simp at read
    · cases read
      exact hexDigits_follows _ _ _ found

theorem hexFixed_agrees (start place count : Nat) (byte : Bool) (inside : Inside c t T) :
    Agrees c Primitive.Like (hexFixed verbose start count byte t) (hexFixed verbose place count byte T) := by
  intro p t' read fits
  rw [hexFixed] at read ⊢
  split at read
  · simp at read
  · next found =>
    split at read
    · simp at read
    · next char =>
      cases read
      obtain ⟨digits, T', foundInside, rfl, placed⟩ := hexDigits_agrees count inside found fits
      rw [foundInside]
      simp only [char]
      exact ⟨_, _, rfl, rfl, placed⟩

theorem hexBraced_follows (verbose : Bool) (start : Nat) (t : Tape) : t.Reads (hexBraced verbose start t) := by
  intro p t' read
  simp only [hexBraced] at read
  have gathered := (t.nextSpaced_follows verbose).trans
    ((t.nextSpaced verbose).takeSpaced_follows verbose Unicode.isHexDigit)
  split at read
  · simp at read
  · split at read
    · simp at read
    · split at read
      · simp at read
      · cases read
        exact gathered.trans (Tape.nextSpaced_follows _ _)
  · simp at read

theorem hexBraced_agrees (start place : Nat) (inside : Inside c t T) (more : t.rest ≠ []) :
    Agrees c Primitive.Like (hexBraced verbose start t) (hexBraced verbose place T) := by
  intro p t' read fits
  simp only [hexBraced] at read ⊢
  have gathered := (t.nextSpaced verbose).takeSpaced_follows verbose Unicode.isHexDigit
  cases taken : (t.nextSpaced verbose).takeSpaced verbose Unicode.isHexDigit with
  | mk digits t1 =>
    rw [taken] at read gathered
    simp only at read
    split at read
    · simp at read
    · next rest left =>
      have within : Fits c t1 := Surroundings.fits_of_rest (by simp [left])
      obtain ⟨T1, takenInside, placed⟩ :=
        (inside.nextSpaced more (within.back gathered)).takeSpaced taken within fun none => by simp [left] at none
      rw [takenInside]
      simp only [placed.cons left]
      split at read
      · simp at read
      · next some =>
        rw [if_neg some]
        split at read
        · simp at read
        · next char =>
          cases read
          exact ⟨_, _, rfl, rfl, placed.nextSpaced (by simp [left]) fits⟩
    · simp at read

theorem hex_follows (verbose : Bool) (start : Nat) (x : Char) (t : Tape) : t.Reads (hex verbose start x t) := by
  intro p t' read
  simp only [hex] at read
  split at read
  · simp at read
  · exact (t.nextSpaced_follows verbose).trans (hexBraced_follows _ _ _ read)
  · exact (t.nextSpaced_follows verbose).trans (hexFixed_follows _ _ _ _ _ read)

theorem hex_agrees (start place : Nat) (x : Char) (inside : Inside c t T) (more : t.rest ≠ []) :
    Agrees c Primitive.Like (hex verbose start x t) (hex verbose place x T) := by
  intro p t' read fits
  simp only [hex] at read ⊢
  cases left : (t.nextSpaced verbose).rest with
  | nil => simp [left] at read
  | cons y rest =>
    have some : (t.nextSpaced verbose).rest ≠ [] := by simp [left]
    have placed := inside.nextSpaced more (Surroundings.fits_of_rest some)
    rw [placed.cons left]
    rw [left] at read
    by_cases brace : y = '\x7b'
    · subst brace
      exact hexBraced_agrees start place placed some read fits
    · split at read
      · next same => simp at same
      · next same => exact absurd (List.cons.inj same).1 brace
      · split
        · next same => simp at same
        · next same => exact absurd (List.cons.inj same).1 brace
        · exact hexFixed_agrees start place _ _ placed read fits

theorem property_follows (verbose : Bool) (start : Nat) (negated : Bool) (t : Tape) :
    t.Reads (property verbose start negated t) := by
  intro p t' read
  simp only [property] at read
  have first := t.nextSpaced_follows verbose
  split at read
  · simp at read
  · split at read
    · simp at read
    · cases read
      exact ((first.trans (Tape.nextSpaced_follows _ _)).trans (Tape.takeSpaced_follows _ _ _)).trans
        (Tape.next_follows _)
  · split at read
    · simp at read
    · cases read
      exact first.trans (Tape.nextSpaced_follows _ _)

theorem property_agrees (start place : Nat) (negated : Bool) (inside : Inside c t T) (more : t.rest ≠ []) :
    Agrees c Primitive.Like (property verbose start negated t) (property verbose place negated T) := by
  intro p t' read fits
  simp only [property] at read ⊢
  cases left : (t.nextSpaced verbose).rest with
  | nil => simp [left] at read
  | cons y rest =>
    have some : (t.nextSpaced verbose).rest ≠ [] := by simp [left]
    have placed := inside.nextSpaced more (Surroundings.fits_of_rest some)
    rw [placed.cons left]
    rw [left] at read
    by_cases brace : y = '\x7b'
    · subst brace
      simp only at read ⊢
      have follows := ((t.nextSpaced verbose).nextSpaced verbose).takeSpaced_follows verbose (· != '\x7d')
      cases taken : ((t.nextSpaced verbose).nextSpaced verbose).takeSpaced verbose (· != '\x7d') with
      | mk name t1 =>
        rw [taken] at read follows
        simp only at read
        split at read
        · simp at read
        · next unread =>
          cases read
          have unread : t1.rest ≠ [] := by simpa using unread
          have within : Fits c t1 := Surroundings.fits_of_rest unread
          obtain ⟨T1, takenInside, last⟩ := (placed.nextSpaced some (within.back follows)).takeSpaced taken within
            fun none => absurd none unread
          rw [takenInside]
          have unreadInside : T1.rest.isEmpty = false := by simp [last.rest, unread]
          simp only [unreadInside]
          exact ⟨_, _, rfl, rfl, last.next unread⟩
    · simp only at read ⊢
      split at read
      · simp at read
      · next other =>
        cases read
        rw [if_neg other]
        exact ⟨_, _, rfl, rfl, placed.nextSpaced some fits⟩

theorem wordBoundary_follows (verbose : Bool) (start : Nat) (t : Tape) :
    t.Reads (wordBoundary verbose start t) := by
  intro p t' read
  simp only [wordBoundary] at read
  split at read
  · split at read
    · simp at read
    · split at read
      · split at read
        · split at read
          · cases read
            exact ((t.nextSpaced_follows verbose).trans (Tape.takeSpaced_follows _ _ _)).trans (Tape.next_follows _)
          · simp at read
        · simp at read
      · cases read
        exact .refl t
  · cases read
    exact .refl t

theorem wordBoundary_agrees (start place : Nat) (inside : Inside c t T) :
    Agrees c Primitive.Like (wordBoundary verbose start t) (wordBoundary verbose place T) := by
  intro p t' read fits
  simp only [wordBoundary] at read ⊢
  have brace := inside.peek_iff (x := '\x7b') (by decide) (by decide)
  by_cases open_ : t.peek? = some '\x7b'
  · rw [if_pos open_] at read
    rw [if_pos (brace.mpr open_)]
    have more : t.rest ≠ [] := by
      intro none
      simp [Tape.peek?, none] at open_
    cases left : (t.nextSpaced verbose).rest with
    | nil => simp [left] at read
    | cons y rest =>
      have some : (t.nextSpaced verbose).rest ≠ [] := by simp [left]
      have placed := inside.nextSpaced more (Surroundings.fits_of_rest some)
      rw [placed.cons left]
      rw [left] at read
      simp only at read ⊢
      split at read
      · next letter =>
        rw [if_pos letter]
        cases taken : (t.nextSpaced verbose).takeSpaced verbose isWordBoundaryLetter with
        | mk name t1 =>
          rw [taken] at read
          simp only at read
          split at read
          · next closed =>
            have unread : t1.rest ≠ [] := by
              intro none
              simp [Tape.peek?, none] at closed
            obtain ⟨T1, takenInside, last⟩ := placed.takeSpaced taken (Surroundings.fits_of_rest unread)
              fun none => absurd none unread
            rw [takenInside]
            simp only [(last.peek_iff (x := '\x7d') (by decide) (by decide)).mpr closed, if_true]
            split at read
            · next named =>
              cases read
              exact ⟨_, _, rfl, rfl, last.next unread⟩
            · simp at read
          · simp at read
      · next other =>
        cases read
        rw [if_neg other]
        exact ⟨_, _, rfl, rfl, inside⟩
  · rw [if_neg open_] at read
    rw [if_neg fun opened => open_ (brace.mp opened)]
    cases read
    exact ⟨_, _, rfl, rfl, inside⟩

/-- Behind a backslash a character begins a word boundary, or is read by itself, or means nothing. -/
theorem letter_cases (x : Char) : (∀ verbose start t, letter verbose start x t = wordBoundary verbose start t) ∨
    (∃ kind : Span → Primitive, (∀ a b, (kind a).Like (kind b)) ∧
      ∀ verbose start t, letter verbose start x t = .ok (kind ⟨start, t.offset⟩, t)) ∨
    ∀ verbose start t, letter verbose start x t = .error (.single .escapeUnrecognized ⟨start, t.offset⟩) := by
  by_cases escapable : isEscapable x = true
  · exact .inr (.inl ⟨fun span => .literal ⟨span, x, false⟩, fun _ _ => rfl, fun _ _ _ => if_pos escapable⟩)
  by_cases word : x = 'b'
  · exact .inl fun _ _ _ => (if_neg escapable).trans (if_pos word)
  right
  cases control : controlNamed? x with
  | some c =>
    refine .inl ⟨fun span => .literal ⟨span, c, false⟩, fun _ _ => rfl, fun verbose start t => ?_⟩
    rw [letter, if_neg escapable, if_neg word]
    simp only [control]
  | none =>
    cases anchor : anchorNamed? x with
    | some a =>
      refine .inl ⟨fun span => .anchor span a, fun _ _ => rfl, fun verbose start t => ?_⟩
      rw [letter, if_neg escapable, if_neg word]
      simp only [control, anchor]
    | none =>
      cases perl : perlNamed? x with
      | some named =>
        refine .inl ⟨fun span => .perl span named.1 named.2, fun _ _ => rfl, fun verbose start t => ?_⟩
        rw [letter, if_neg escapable, if_neg word]
        simp only [control, anchor, perl]
      | none =>
        refine .inr fun verbose start t => ?_
        rw [letter, if_neg escapable, if_neg word]
        simp only [control, anchor, perl]

theorem letter_follows (verbose : Bool) (start : Nat) (x : Char) (t : Tape) :
    t.Reads (letter verbose start x t) := by
  intro p t' read
  rcases letter_cases x with word | ⟨kind, -, single⟩ | unknown
  · rw [word] at read
    exact wordBoundary_follows _ _ _ read
  · rw [single] at read
    cases read
    exact .refl t
  · rw [unknown] at read
    simp at read

theorem letter_agrees (start place : Nat) (x : Char) (inside : Inside c t T) :
    Agrees c Primitive.Like (letter verbose start x t) (letter verbose place x T) := by
  intro p t' read fits
  rcases letter_cases x with word | ⟨kind, like, single⟩ | unknown
  · rw [word] at read ⊢
    exact wordBoundary_agrees start place inside read fits
  · rw [single] at read ⊢
    cases read
    exact ⟨_, _, rfl, like _ _, inside⟩
  · rw [unknown] at read
    simp at read

theorem read_follows (verbose : Bool) (t : Tape) : t.next.Reads (read verbose t) := by
  intro p t' found
  simp only [read] at found
  split at found
  · simp at found
  · split at found
    · simp at found
    · split at found
      · exact hex_follows _ _ _ _ found
      · split at found
        · exact property_follows _ _ _ _ found
        · exact t.next.next_follows.trans (letter_follows _ _ _ _ found)

theorem read_agrees (inside : Inside c t T) (more : t.rest ≠ []) :
    Agrees c Primitive.Like (read verbose t) (read verbose T) := by
  intro p t' found fits
  simp only [read] at found ⊢
  have placed := inside.next more
  cases left : t.next.rest with
  | nil => simp [left] at found
  | cons y rest =>
    have some : t.next.rest ≠ [] := by simp [left]
    rw [placed.cons left]
    rw [left] at found
    simp only at found ⊢
    split at found
    · simp at found
    · next digit =>
      rw [if_neg digit]
      split at found
      · next hexadecimal =>
        rw [if_pos hexadecimal]
        exact hex_agrees _ _ y placed some found fits
      · next decimal =>
        rw [if_neg decimal]
        split at found
        · next named =>
          rw [if_pos named]
          exact property_agrees _ _ _ placed some found fits
        · next single =>
          rw [if_neg single]
          exact letter_agrees _ _ y (placed.next some) found fits

end Escape

theorem readPrimitive_follows (verbose : Bool) (x : Char) (t : Tape) :
    t.next.Reads (readPrimitive verbose x t) := by
  intro p t' read
  unfold readPrimitive at read
  split at read
  · exact Escape.read_follows verbose t read
  all_goals
    cases read
    exact .refl _

theorem readPrimitive_agrees (x : Char) (inside : Inside c t T) (more : t.rest ≠ []) :
    Agrees c Primitive.Like (readPrimitive verbose x t) (readPrimitive verbose x T) := by
  intro p t' read fits
  unfold readPrimitive at read ⊢
  split at read
  · exact Escape.read_agrees inside more read fits
  all_goals
    cases read
    exact ⟨_, _, rfl, rfl, inside.next more⟩

end
end Lexicon.Regex

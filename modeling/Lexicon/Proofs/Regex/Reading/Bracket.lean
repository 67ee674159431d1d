import Lexicon.Regex.Bracket
import Lexicon.Proofs.Regex.Reading.Escape

/-! Bracketed classes, read alone and inside of a group. -/
namespace Lexicon.Regex
open Surroundings (Fits)

theorem ClassTree.shape_span (t : ClassTree) : t.shape.span = .point 0 := by
  cases t <;> rfl

theorem ClassTree.ofItems_shape (span : Span) (items : List ClassTree) :
    (ClassTree.ofItems span items).shape = ClassTree.ofItems (.point 0) (items.map ClassTree.shape) := by
  match items with
  | [] | [_] => rfl
  | _ :: _ :: _ =>
    rw [ofItems, shape, shapeAll_eq]
    · rfl
    all_goals simp

namespace Bracket

/-- The bracket without its stretches. -/
def shape (b : Bracket) : Bracket where
  span := .point 0
  negated := b.negated
  pending := b.pending.map fun side => (side.1, side.2.shape)
  items := b.items.map ClassTree.shape
  itemsSpan := .point 0

/-- Two brackets are the same but for their stretches. -/
def Like (b other : Bracket) : Prop := b.shape = other.shape

theorem push_shape (b : Bracket) (item : ClassTree) :
    (b.push item).shape = { b.shape with items := item.shape :: b.shape.items } := rfl

theorem body_shape (b : Bracket) : b.body.shape = b.shape.body := by
  simp only [body, shape]
  cases b.pending with
  | none => rw [ClassTree.ofItems_shape, List.map_reverse]; rfl
  | some side =>
    have right := ClassTree.ofItems_shape b.itemsSpan b.items.reverse
    rw [List.map_reverse] at right
    simp only [Option.map_some, ClassTree.shape, ClassTree.shape_span, ← right]

theorem startOperation_shape (b : Bracket) (op : ClassOp) (offset : Nat) :
    (b.startOperation op offset).shape = { b.shape with pending := some (op, b.shape.body), items := [] } := by
  rw [← body_shape]
  rfl

section
variable {c : Surroundings} {t T : Tape} {verbose : Bool} {b other : Bracket}

theorem leadingHyphens_follows {start steps : Nat} {b b' : Bracket} {t t' : Tape}
    (read : leadingHyphens verbose start steps b t = .ok (b', t')) :
    t.Follows t' ∧ (t.rest ≠ [] → t'.rest ≠ []) := by
  induction steps generalizing b t with
  | zero =>
    cases read
    exact ⟨.refl _, id⟩
  | succ steps ih =>
    simp only [leadingHyphens] at read
    split at read
    · split at read
      · simp at read
      · next some =>
        obtain ⟨follows, more⟩ := ih read
        exact ⟨(t.nextSpaced_follows verbose).trans follows, fun _ => more (by simpa using some)⟩
    · cases read
      exact ⟨.refl _, id⟩

theorem leadingHyphens_agrees (start place : Nat) {steps more : Nat} (inside : Inside c t T) (alike : b.Like other)
    (some : t.rest ≠ []) (enough : t.rest.length ≤ steps) (plenty : T.rest.length ≤ more) :
    Agrees c Like (leadingHyphens verbose start steps b t) (leadingHyphens verbose place more other T) := by
  induction steps generalizing t T b other more with
  | zero => exact absurd (List.length_eq_zero_iff.mp (Nat.le_zero.mp enough)) some
  | succ steps ih =>
    intro b' t' read fits
    have longer : 0 < T.rest.length := by
      rw [inside.rest, List.length_append]
      exact Nat.add_pos_left (List.length_pos_iff.mpr some) _
    obtain ⟨more, rfl⟩ : ∃ less, more = less + 1 := ⟨more - 1, by omega⟩
    simp only [leadingHyphens] at read ⊢
    have asked := inside.peek_iff (x := '-') (by decide) (by decide)
    split at read
    · next hyphen =>
      rw [if_pos (asked.mpr hyphen)]
      split at read
      · simp at read
      · next unread =>
        have unread : (t.nextSpaced verbose).rest ≠ [] := by simpa using unread
        have placed := inside.nextSpaced some (Surroundings.fits_of_rest unread)
        have unreadInside : (T.nextSpaced verbose).rest.isEmpty = false := by simp [placed.rest, unread]
        simp only [unreadInside, Bool.false_eq_true, if_false]
        have shorter {t : Tape} (some : t.rest ≠ []) : (t.nextSpaced verbose).rest.length < t.rest.length :=
          Nat.lt_of_le_of_lt (t.next.skipBlanks_follows verbose).length_le (Tape.next_shorter some)
        have less := shorter some
        have lessInside := shorter (List.length_pos_iff.mp longer)
        refine ih placed ?_ unread (by omega) (by omega) read fits
        rw [Like, push_shape, push_shape, show b.shape = other.shape from alike]
        rfl
    · next plain =>
      rw [if_neg fun other => plain (asked.mp other)]
      cases read
      exact ⟨_, _, rfl, alike, inside⟩

theorem read_follows (verbose : Bool) (t : Tape) : t.next.Reads (read verbose t) := by
  intro b t' found
  have first : t.next.Follows (t.nextSpaced verbose) := t.next.skipBlanks_follows verbose
  have second : (t.nextSpaced verbose).Follows (if (t.nextSpaced verbose).peek? = some '^' then
      (t.nextSpaced verbose).nextSpaced verbose else t.nextSpaced verbose) := by
    split
    · exact Tape.nextSpaced_follows _ _
    · exact .refl _
  simp only [read] at found
  generalize (if (t.nextSpaced verbose).peek? = some '^' then (t.nextSpaced verbose).nextSpaced verbose
    else t.nextSpaced verbose) = t2 at found second
  split at found
  · simp at found
  · split at found
    · simp at found
    · split at found
      · simp at found
      · next hyphens =>
        have whole := (first.trans second).trans (leadingHyphens_follows hyphens).1
        split at found
        · split at found
          · simp at found
          · cases found
            exact whole.trans (Tape.nextSpaced_follows _ _)
        · cases found
          exact whole

theorem read_agrees (inside : Inside c t T) (more : t.rest ≠ []) :
    Agrees c Like (read verbose t) (read verbose T) := by
  intro b t' found fits
  have unended {t T : Tape} (inside : Inside c t T) : T.rest.isEmpty = false := by
    obtain ⟨first, more, tail, -⟩ := c.tail_cons t.openComment
    simp [inside.rest, tail]
  simp only [read] at found ⊢
  by_cases ended : (t.nextSpaced verbose).rest.isEmpty = true
  · simp only [ended, if_true, reduceCtorEq] at found
  · rw [if_neg ended] at found
    have unread : (t.nextSpaced verbose).rest ≠ [] := by simpa using ended
    have placed := inside.nextSpaced more (Surroundings.fits_of_rest unread)
    simp only [unended placed, Bool.false_eq_true, if_false, placed.peek_iff (x := '^') (by decide) (by decide)]
    have second (left : (if (t.nextSpaced verbose).peek? = some '^' then (t.nextSpaced verbose).nextSpaced verbose
          else t.nextSpaced verbose).rest ≠ []) :
        Inside c (if (t.nextSpaced verbose).peek? = some '^' then
            (t.nextSpaced verbose).nextSpaced verbose else t.nextSpaced verbose)
          (if (t.nextSpaced verbose).peek? = some '^' then
            (T.nextSpaced verbose).nextSpaced verbose else T.nextSpaced verbose) := by
      split
      · next negated =>
        rw [if_pos negated] at left
        exact placed.nextSpaced unread (Surroundings.fits_of_rest left)
      · exact placed
    generalize (if (t.nextSpaced verbose).peek? = some '^' then (t.nextSpaced verbose).nextSpaced verbose
        else t.nextSpaced verbose) = t2 at found second
    generalize (if (t.nextSpaced verbose).peek? = some '^' then (T.nextSpaced verbose).nextSpaced verbose
        else T.nextSpaced verbose) = T2 at second
    split at found
    · simp at found
    · next some =>
      have some : t2.rest ≠ [] := by simpa using some
      have second := second some
      simp only [unended second, Bool.false_eq_true, if_false]
      split at found
      · simp at found
      · next b1 t3 hyphens =>
        have left := (leadingHyphens_follows hyphens).2 some
        have opened : Like ⟨.point t.offset, (t.nextSpaced verbose).peek? = .some '^', none, [], .point t2.offset⟩
            ⟨.point T.offset, (t.nextSpaced verbose).peek? = .some '^', none, [], .point T2.offset⟩ := rfl
        obtain ⟨B1, T3, hyphensInside, alike, third⟩ := leadingHyphens_agrees t.offset T.offset second opened
          some (Nat.le_refl _) (Nat.le_refl _) hyphens (Surroundings.fits_of_rest left)
        have emptyAlike : B1.items.isEmpty = b1.items.isEmpty := by
          have items := congrArg (fun b => b.items.isEmpty) alike
          simpa [shape] using items.symm
        have bracket := third.peek_iff (x := ']') (by decide) (by decide)
        rw [hyphensInside]
        simp only [emptyAlike, bracket]
        split at found
        · next literal =>
          rw [if_pos literal]
          split at found
          · simp at found
          · next more =>
            cases found
            have more : (t3.nextSpaced verbose).rest ≠ [] := by simpa using more
            have fourth := third.nextSpaced left (Surroundings.fits_of_rest more)
            simp only [unended fourth, Bool.false_eq_true, if_false]
            refine ⟨_, _, rfl, ?_, fourth⟩
            have grown := push_shape b1 (.literal ⟨.single t3.offset, ']', false⟩)
            rw [show b1.shape = B1.shape from alike] at grown
            exact grown
        · next other =>
          cases found
          rw [if_neg other]
          exact ⟨_, _, rfl, alike, third⟩

/-- The name of a class has neither line feeds nor closing parentheses. -/
theorem posixName_plain {name : List Char} {posix : PosixClass}
    (named : PosixClass.ofName? (String.ofList name) = some posix) : '\n' ∉ name ∧ ')' ∉ name := by
  have spelled {word : String} (same : String.ofList name = word) (plain : '\n' ∉ word.toList ∧ ')' ∉ word.toList) :
      '\n' ∉ name ∧ ')' ∉ name := by
    rw [← same, String.toList_ofList] at plain
    exact plain
  unfold PosixClass.ofName? at named
  split at named
  all_goals first
    | exact spelled (by assumption) (by decide)
    | simp at named

/-- Splits a list before the first character that is not accepted. -/
theorem takeWhile_split {accept : Char → Bool} {rest behind : List Char}
    (left : rest.drop (rest.takeWhile accept).length = behind) : rest = rest.takeWhile accept ++ behind := by
  rw [← left]
  exact (List.prefix_iff_eq_append.mp (List.takeWhile_prefix accept)).symm

theorem posix_follows {item : ClassTree} {t' : Tape} (found : posix? t = some (item, t')) :
    t.next.Follows t' := by
  unfold posix? at found
  split at found
  · next rest left =>
    have next : t.next = ⟨':' :: rest, t.offset + 1, t.openComment⟩ := by simp [Tape.next, left]
    simp only at found
    split at found
    · next after posix behind named =>
      simp only [Option.some.injEq, Prod.mk.injEq] at found
      obtain ⟨-, rfl⟩ := found
      have whole := takeWhile_split behind
      have inner : (if (rest.head? == some '^') = true then rest.drop 1 else rest) <:+ rest := by
        split
        · exact List.drop_suffix 1 rest
        · exact List.suffix_refl rest
      have length : (if (rest.head? == some '^') = true then rest.drop 1 else rest).length +
          (if (rest.head? == some '^') = true then 1 else 0) = rest.length := by
        cases rest with
        | nil => rfl
        | cons x rest => split <;> simp
      have total := congrArg List.length whole
      rw [List.length_append, List.length_cons, List.length_cons] at total
      rw [next]
      refine ⟨?_, ?_, by simp⟩
      · have suffix : after <:+ (if (rest.head? == some '^') = true then rest.drop 1 else rest) := by
          rw [whole]
          exact ((List.suffix_cons ']' after).trans (List.suffix_cons ':' _)).trans (List.suffix_append _ _)
        exact (suffix.trans inner).trans (List.suffix_cons ':' rest)
      · simp only [List.length_cons]
        omega
    · simp at found
  · simp at found

theorem posix_other (other : ∀ rest, t.rest ≠ '[' :: ':' :: rest) : posix? t = none := by
  unfold posix?
  split
  · next left => exact absurd left (other _)
  · rfl

/-- No class has a name that reaches over the end of the group. -/
theorem posixName_reaching {body more : List Char} {first : Char} (ends : first = '\n' ∨ first = ')')
    (all : (body.takeWhile (· != ':')).length = body.length) :
    PosixClass.ofName? (String.ofList ((body ++ first :: more).takeWhile (· != ':'))) = none := by
  have member : first ∈ (body ++ first :: more).takeWhile (· != ':') := by
    rw [List.takeWhile_append, if_pos all, List.takeWhile_cons_of_pos (by rcases ends with rfl | rfl <;> rfl)]
    simp
  cases named : PosixClass.ofName? (String.ofList ((body ++ first :: more).takeWhile (· != ':'))) with
  | none => rfl
  | some posix =>
    obtain ⟨feed, close⟩ := posixName_plain named
    rcases ends with rfl | rfl
    · exact absurd member feed
    · exact absurd member close

/-- What does not start like a named class alone does not do so inside of a group. -/
theorem posix_start (inside : Inside c t T) (other : ∀ rest, t.rest ≠ '[' :: ':' :: rest) (rest : List Char) :
    T.rest ≠ '[' :: ':' :: rest := by
  intro same
  obtain ⟨first, more, tail, ends⟩ := c.tail_cons t.openComment
  rw [inside.rest, tail] at same
  match left : t.rest with
  | [] =>
    rw [left, List.nil_append, List.cons.injEq] at same
    rcases ends with rfl | rfl <;> simp at same
  | [x] =>
    rw [left, List.cons_append, List.cons.injEq, List.nil_append, List.cons.injEq] at same
    rcases ends with rfl | rfl <;> simp at same
  | x :: y :: behind =>
    rw [left, List.cons_append, List.cons.injEq, List.cons_append, List.cons.injEq] at same
    obtain ⟨rfl, rfl, -⟩ := same
    exact other behind left

theorem posix_inside (inside : Inside c t T) : (posix? t = none → posix? T = none) ∧
    ∀ item t', posix? t = some (item, t') →
      ∃ item' T', posix? T = some (item', T') ∧ item.shape = item'.shape ∧ Inside c t' T' := by
  by_cases start : ∃ rest, t.rest = '[' :: ':' :: rest
  · obtain ⟨rest, left⟩ := start
    have comment := inside.openComment (by simp [left])
    obtain ⟨first, more, tail, ends⟩ := c.tail_cons false
    have leftInside := inside.cons left
    rw [tail] at leftInside
    have caret : ((rest ++ first :: more).head? == some '^') = (rest.head? == some '^') := by
      cases rest with
      | nil => rcases ends with rfl | rfl <;> rfl
      | cons => rfl
    have inner : (if (rest.head? == some '^') = true then (rest ++ first :: more).drop 1 else rest ++ first :: more) =
        (if (rest.head? == some '^') = true then rest.drop 1 else rest) ++ first :: more := by
      cases rest with
      | nil => rfl
      | cons => split <;> rfl
    unfold posix?
    simp only [left, leftInside, List.cons_append, caret, inner]
    generalize (if (rest.head? == some '^') = true then rest.drop 1 else rest) = body
    by_cases all : (body.takeWhile (· != ':')).length = body.length
    · rw [posixName_reaching ends all, all, List.drop_length]
      simp
    · rw [List.takeWhile_append, if_neg all, List.drop_append_of_le_length (List.takeWhile_sublist _).length_le]
      generalize PosixClass.ofName? (String.ofList (body.takeWhile (· != ':'))) = named
      cases behind : body.drop (body.takeWhile (· != ':')).length with
      | nil =>
        have short := takeWhile_split behind
        rw [List.append_nil] at short
        exact absurd (congrArg List.length short).symm all
      | cons x after =>
        cases after with
        | nil => rcases ends with rfl | rfl <;> simp
        | cons y after =>
          by_cases closed : x = ':' ∧ y = ']'
          · obtain ⟨rfl, rfl⟩ := closed
            cases named with
            | none => simp
            | some posix =>
              refine ⟨by simp, fun item t' found => ?_⟩
              simp only [Option.some.injEq, Prod.mk.injEq] at found
              obtain ⟨rfl, rfl⟩ := found
              refine ⟨_, _, rfl, rfl, ?_, inside.comment, by simp [comment]⟩
              simp only [comment, tail]
              rfl
          · constructor
            · intro _
              simp only [List.cons_append]
              split
              · simp_all
              · rfl
            · intro item t' found
              split at found
              · simp_all
              · simp at found
  · have other : ∀ rest, t.rest ≠ '[' :: ':' :: rest := fun rest left => start ⟨rest, left⟩
    rw [posix_other other, posix_other (posix_start inside other)]
    simp

theorem readMember_follows (verbose : Bool) (x : Char) (t : Tape) : t.next.Reads (readMember verbose x t) := by
  intro p t' read
  unfold readMember at read
  split at read
  · exact Escape.read_follows verbose t read
  · cases read
    exact .refl _

theorem readMember_agrees (x : Char) (inside : Inside c t T) (more : t.rest ≠ []) :
    Agrees c Primitive.Like (readMember verbose x t) (readMember verbose x T) := by
  intro p t' read fits
  unfold readMember at read ⊢
  split at read
  · exact Escape.read_agrees inside more read fits
  · cases read
    exact ⟨_, _, rfl, rfl, inside.next more⟩

theorem toClassItem_like {p q : Primitive} {item : ClassTree} (alike : p.Like q) (found : p.toClassItem = .ok item) :
    ∃ other, q.toClassItem = .ok other ∧ item.shape = other.shape := by
  unfold Primitive.Like at alike
  cases p <;> cases q <;> simp_all [Primitive.shape, Primitive.toClassItem]
  all_goals
    subst found
    simp [ClassTree.shape, *]

theorem toRangeEnd_like {p q : Primitive} {l : Literal} (alike : p.Like q) (found : p.toRangeEnd = .ok l) :
    ∃ other, q.toRangeEnd = .ok other ∧ l.shape = other.shape := by
  unfold Primitive.Like at alike
  cases p <;> cases q <;> simp_all [Primitive.shape, Primitive.toRangeEnd]

theorem Literal.char_of_shape {l other : Literal} (same : l.shape = other.shape) : l.char = other.char := by
  simpa [Literal.shape] using congrArg Literal.char same

theorem readItem_follows (verbose : Bool) (unclosed : Span) (x : Char) (t : Tape) :
    t.next.Reads (readItem verbose unclosed x t) := by
  intro item t' read
  simp only [readItem, bind, Except.bind, pure, Except.pure] at read
  split at read
  · simp at read
  · next member first =>
    have start := (readMember_follows verbose x t first).trans (member.2.skipBlanks_follows verbose)
    split at read
    · simp at read
    · split at read
      · split at read
        · simp at read
        · cases read
          exact start
      · split at read
        · simp at read
        · split at read
          · simp at read
          · next second =>
            have behind := readMember_follows _ _ _ second
            split at read
            · simp at read
            · split at read
              · simp at read
              · split at read
                · cases read
                  exact ((start.trans (Tape.nextSpaced_follows _ _)).trans (Tape.next_follows _)).trans behind
                · simp at read

theorem readItem_agrees (unclosed other : Span) (x : Char) (inside : Inside c t T) (more : t.rest ≠ []) :
    Agrees c (fun item item' => item.shape = item'.shape) (readItem verbose unclosed x t)
      (readItem verbose other x T) := by
  intro item t' read fits
  simp only [readItem, bind, Except.bind, pure, Except.pure] at read ⊢
  split at read
  · simp at read
  · next member first =>
    obtain ⟨p, t0⟩ := member
    simp only at read
    split at read
    · simp at read
    · next hyphen rest left =>
      have unread : (t0.skipBlanks verbose).rest ≠ [] := by simp [left]
      have within : Fits c (t0.skipBlanks verbose) := Surroundings.fits_of_rest unread
      obtain ⟨q, T0, firstInside, alike, placed⟩ :=
        readMember_agrees x inside more first (within.back (t0.skipBlanks_follows verbose))
      have start := placed.skipBlanks within
      rw [firstInside]
      simp only [start.cons left]
      have seen := start.peekSpaced verbose unread
      split at read
      · next alone =>
        have aloneInside : hyphen ≠ '-' ∨ (T0.skipBlanks verbose).peekSpaced? verbose = some ']' ∨
            (T0.skipBlanks verbose).peekSpaced? verbose = some '-' := by
          rcases seen with same | ⟨-, noBracket, noHyphen⟩
          · rwa [same]
          · rcases alone with differs | bracket | again
            · exact .inl differs
            · exact absurd bracket noBracket
            · exact absurd again noHyphen
        rw [if_pos aloneInside]
        split at read
        · simp at read
        · next found =>
          cases read
          obtain ⟨member, foundInside, same⟩ := toClassItem_like alike found
          rw [foundInside]
          exact ⟨_, _, rfl, same, start⟩
      · next ranged =>
        split at read
        · simp at read
        · next y tail last =>
          have some : ((t0.skipBlanks verbose).nextSpaced verbose).rest ≠ [] := by simp [last]
          have same := seen.resolve_right fun none => some none.1
          rw [same, if_neg ranged]
          have second := start.nextSpaced unread (Surroundings.fits_of_rest some)
          simp only [second.cons last]
          split at read
          · simp at read
          · next member lastMember =>
            obtain ⟨p', t2⟩ := member
            simp only at read
            split at read
            · simp at read
            · next low lowest =>
              split at read
              · simp at read
              · next high highest =>
                split at read
                · next ordered =>
                  cases read
                  obtain ⟨q', T2, lastInside, alike', third⟩ := readMember_agrees y second some lastMember fits
                  obtain ⟨low', lowInside, lowSame⟩ := toRangeEnd_like alike lowest
                  obtain ⟨high', highInside, highSame⟩ := toRangeEnd_like alike' highest
                  rw [Literal.char_of_shape lowSame, Literal.char_of_shape highSame] at ordered
                  simp only [lastInside, lowInside, highInside, if_pos ordered]
                  refine ⟨_, _, rfl, ?_, third⟩
                  simp only [ClassTree.shape, lowSame, highSame]
                · simp at read

/-- What a step inside brackets leads to is the same but for stretches, and the tapes go on alike. -/
def Progress.Like (c : Surroundings) : Progress → Progress → Prop
  | .inside b outer t, .inside b' outer' T =>
    b.Like b' ∧ outer.map shape = outer'.map shape ∧ Inside c t T
  | .closed b t, .closed b' T => b.Like b' ∧ Inside c t T
  | _, _ => False

def Progress.tape : Progress → Tape
  | .inside _ _ t | .closed _ t => t

theorem step_follows {outer : List Bracket} {progress : Progress}
    (stepped : step verbose b outer t = .ok progress) :
    (t.skipBlanks verbose).rest ≠ [] ∧ (t.skipBlanks verbose).next.Follows progress.tape := by
  simp only [step] at stepped
  split at stepped
  · simp at stepped
  · next left =>
    refine ⟨by simp [left], ?_⟩
    split at stepped
    · split at stepped
      · next found =>
        cases stepped
        exact posix_follows found
      · split at stepped
        · simp at stepped
        · next found =>
          cases stepped
          exact read_follows _ _ found
    · split at stepped
      · split at stepped
        all_goals
          cases stepped
          exact .refl _
      · split at stepped
        · cases stepped
          exact Tape.next_follows _
        · split at stepped
          · simp at stepped
          · next found =>
            cases stepped
            exact readItem_follows _ _ _ _ found

theorem operator_inside (inside : Inside c t T) : operator? T = operator? t := by
  obtain ⟨first, more, tail, ends⟩ := c.tail_cons t.openComment
  have whole := inside.rest
  rw [tail] at whole
  unfold operator?
  rw [whole]
  match t.rest with
  | [] => rcases ends with rfl | rfl <;> rfl
  | [x] =>
    rcases ends with rfl | rfl
    all_goals
      simp only [List.cons_append, List.nil_append]
      split <;> simp_all
  | x :: y :: rest =>
    simp only [List.cons_append]
    split <;> split <;> simp_all

theorem operator_two {op : ClassOp} (found : operator? t = some op) : t.next.rest ≠ [] := by
  unfold operator? at found
  split at found
  all_goals first
    | next left => simp [Tape.next, left]
    | simp at found

theorem step_like {outer others : List Bracket} {progress : Progress} (inside : Inside c t T)
    (alike : b.Like other) (around : outer.map shape = others.map shape)
    (stepped : step verbose b outer t = .ok progress) (fits : Fits c progress.tape) :
    ∃ again, step verbose other others T = .ok again ∧ progress.Like c again := by
  obtain ⟨some, follows⟩ := step_follows stepped
  have start := inside.skipBlanks (Surroundings.fits_of_rest some)
  have pushed {item item' : ClassTree} (same : item.shape = item'.shape) : (b.push item).Like (other.push item') := by
    rw [Like, push_shape, push_shape, same, show b.shape = other.shape from alike]
  simp only [step] at stepped ⊢
  cases left : (t.skipBlanks verbose).rest with
  | nil => exact absurd left some
  | cons x rest =>
    rw [left] at stepped
    rw [start.cons left]
    simp only at stepped ⊢
    split at stepped
    · next opening =>
      rw [if_pos opening]
      obtain ⟨absent, present⟩ := posix_inside start
      split at stepped
      · next item t' found =>
        cases stepped
        obtain ⟨item', T', foundInside, same, placed⟩ := present item t' found
        rw [foundInside]
        exact ⟨_, rfl, pushed same, around, placed⟩
      · next missing =>
        rw [absent missing]
        split at stepped
        · simp at stepped
        · next found =>
          cases stepped
          obtain ⟨inner, T', foundInside, same, placed⟩ := read_agrees start some found fits
          simp only [foundInside]
          refine ⟨_, rfl, same, ?_, placed⟩
          rw [List.map_cons, List.map_cons, around, show b.shape = other.shape from alike]
    · next solid =>
      rw [if_neg solid]
      split at stepped
      · next closing =>
        rw [if_pos closing]
        have placed := start.next some
        cases outer with
        | nil =>
          cases stepped
          rw [List.map_nil, eq_comm, List.map_eq_nil_iff] at around
          subst around
          exact ⟨_, rfl, alike, placed⟩
        | cons parent outer =>
          cases stepped
          cases others with
          | nil => simp at around
          | cons parent' others =>
            simp only [List.map_cons, List.cons.injEq] at around
            refine ⟨_, rfl, ?_, around.2, placed⟩
            have negation : b.negated = other.negated := by
              simpa [shape] using congrArg negated (show b.shape = other.shape from alike)
            rw [Like, push_shape, push_shape, around.1, ClassTree.shape, ClassTree.shape, body_shape, body_shape,
              show b.shape = other.shape from alike, negation]
      · next member =>
        rw [if_neg member, operator_inside start]
        split at stepped
        · next op operates =>
          cases stepped
          refine ⟨_, rfl, ?_, around, (start.next some).next ?_⟩
          · rw [Like, startOperation_shape, startOperation_shape, show b.shape = other.shape from alike]
          · exact operator_two operates
        · split at stepped
          · simp at stepped
          · next found =>
            cases stepped
            obtain ⟨item', T', foundInside, same, placed⟩ := readItem_agrees b.span other.span x start some found fits
            simp only [foundInside]
            exact ⟨_, rfl, pushed same, around, placed⟩

end
end Bracket
end Lexicon.Regex

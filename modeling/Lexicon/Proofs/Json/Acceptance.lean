import Mathlib.Data.List.Forall2
import Lexicon.Proofs.Json.Strings

/-! What the readers of a JSON text accept: for each of them, what was on the tape where it succeeds. Two readers of
items that accept the same texts make readers of lists that do. -/
namespace Lexicon.Json

theorem map_ok {ε α β : Type} {read : Except ε α} {f : α → β} {y : β} :
    read.map f = .ok y ↔ ∃ x, read = .ok x ∧ f x = y := by
  cases read <;> simp [Except.map]

/-- Neither a string nor a value that holds others. -/
inductive Value.Plain : Value → Prop where
  | null : Plain null
  | bool (value : Bool) : Plain (bool value)
  | number (value : Number) : Plain (number value)

namespace Tape
variable {α β : Type} {t t' : Tape}

theorem fail_ne_ok {cause : Cause} {x : α} : t.fail cause ≠ .ok x := by
  simp [fail]

theorem failAhead_ne_ok {cause : Cause} {x : α} : t.failAhead cause ≠ .ok x := by
  unfold failAhead
  split
  · exact fail_ne_ok
  · simp
  · simp

/-! Blanks. -/

theorem skipSpace_rest (t : Tape) : t.skipSpace.rest = t.rest.dropWhile isSpace := by
  change (skip (t.rest.takeWhile isSpace).length t).rest = _
  rw [skip_rest]
  conv_lhs => arg 2; rw [← List.takeWhile_append_dropWhile (p := isSpace) (l := t.rest)]
  exact List.drop_left

/-- Behind blanks there are no more of them. -/
theorem skipSpace_skipSpace (t : Tape) : t.skipSpace.skipSpace = t.skipSpace := by
  cases rest : t.skipSpace.rest with
  | nil =>
    rw [skipSpace, rest]
    rfl
  | cons c more =>
    refine skipSpace_of rest ?_
    have first := List.head?_dropWhile_not isSpace t.rest
    rw [← skipSpace_rest, rest] at first
    simpa using first

/-! Values. -/

/-- A string starts with a quote, and a value that starts with none is plain, unless brackets or braces open it. -/
theorem scalar_ok {v : Value} (read : t.scalar = .ok (v, t')) :
    (∃ text more, v = .string text ∧ t.rest = '"' :: more ∧ t.string = .ok (text, t')) ∨ v.Plain := by
  unfold scalar at read
  split at read
  · exact absurd read fail_ne_ok
  · obtain ⟨_, -, same⟩ := map_ok.mp read
    exact .inr ((Prod.mk.inj same).1 ▸ .null)
  · obtain ⟨_, -, same⟩ := map_ok.mp read
    exact .inr ((Prod.mk.inj same).1 ▸ .bool true)
  · obtain ⟨_, -, same⟩ := map_ok.mp read
    exact .inr ((Prod.mk.inj same).1 ▸ .bool false)
  · next more opened =>
    obtain ⟨⟨text, t1⟩, string, same⟩ := map_ok.mp read
    simp only [Prod.mk.injEq] at same
    obtain ⟨rfl, rfl⟩ := same
    exact .inl ⟨text, more, rfl, opened, string⟩
  · obtain ⟨⟨n, _⟩, -, same⟩ := map_ok.mp read
    exact .inr ((Prod.mk.inj same).1 ▸ .number n)
  · split at read
    · obtain ⟨⟨n, _⟩, -, same⟩ := map_ok.mp read
      exact .inr ((Prod.mk.inj same).1 ▸ .number n)
    · exact absurd read failAhead_ne_ok

theorem mismatch_ne_ok {expected : String} {x : α} : t.mismatch expected ≠ .ok x := by
  unfold mismatch
  split
  · exact fail_ne_ok
  · exact fail_ne_ok
  · split
    · simp
    · exact fail_ne_ok

/-- Brackets open an array and nothing else does. -/
theorem value_array {depth : Nat} {xs : List Value} :
    value (depth + 2) t = .ok (.array xs, t') ↔ ∃ more, t.skipSpace.rest = '[' :: more ∧
      items (value (depth + 1)) true (more.length + 2) t.skipSpace.next = .ok (xs, t') := by
  rw [value]
  split
  · next more opened => simp [opened, map_ok]
  · next more opened => simp [opened, map_ok]
  · next other _ =>
    constructor
    · intro read
      rcases scalar_ok read with ⟨_, _, string, -⟩ | plain
      · cases string
      · cases plain
    · rintro ⟨more, opened, -⟩
      exact absurd opened (other more)

/-- Braces open an object and nothing else does. -/
theorem value_object {depth : Nat} {ms : List (String × Value)} :
    value (depth + 2) t = .ok (.object ms, t') ↔ ∃ more, t.skipSpace.rest = '\x7b' :: more ∧
      members (value (depth + 1)) true (more.length + 2) t.skipSpace.next = .ok (ms, t') := by
  rw [value]
  split
  · next more opened => simp [opened, map_ok]
  · next more opened => simp [opened, map_ok]
  · next other =>
    constructor
    · intro read
      rcases scalar_ok read with ⟨_, _, string, -⟩ | plain
      · cases string
      · cases plain
    · rintro ⟨more, opened, -⟩
      exact absurd opened (other more)

/-- A quote opens a string and nothing else does. -/
theorem value_string {depth : Nat} {text : String} :
    value (depth + 1) t = .ok (.string text, t') ↔
      (∃ more, t.skipSpace.rest = '"' :: more) ∧ t.skipSpace.string = .ok (text, t') := by
  rw [value]
  split
  · next more opened => split <;> simp [opened, map_ok, failAhead_ne_ok]
  · next more opened => split <;> simp [opened, map_ok, failAhead_ne_ok]
  · constructor
    · intro read
      rcases scalar_ok read with ⟨_, more, same, opened, string⟩ | plain
      · cases same
        exact ⟨⟨more, opened⟩, string⟩
      · cases plain
    · rintro ⟨⟨more, opened⟩, string⟩
      rw [scalar, opened]
      exact map_ok.mpr ⟨_, string, rfl⟩

/-! Items and members. -/

/-- An item starts behind the blanks before it. -/
theorem nextItem_solid {first : Bool} (more : t.nextItem first = .ok (true, t')) : t'.skipSpace = t' := by
  unfold nextItem at more
  simp only at more
  split at more
  · exact absurd more fail_ne_ok
  · simp at more
  · split at more
    · obtain ⟨-, rfl⟩ := Prod.mk.inj (Except.ok.inj more)
      exact t.skipSpace_skipSpace
    · split at more
      · split at more
        · exact absurd more fail_ne_ok
        · exact absurd more failAhead_ne_ok
        · obtain ⟨-, rfl⟩ := Prod.mk.inj (Except.ok.inj more)
          exact t.skipSpace.next.skipSpace_skipSpace
      · exact absurd more failAhead_ne_ok

theorem items_succ {item : Reader α} {first : Bool} {steps : Nat} {xs : List α} :
    items item first (steps + 1) t = .ok (xs, t') ↔
      (∃ t1, t.nextItem first = .ok (false, t1) ∧ xs = [] ∧ t' = t1.next) ∨
      ∃ t1 x t2 rest, t.nextItem first = .ok (true, t1) ∧ item t1 = .ok (x, t2) ∧
        items item false steps t2 = .ok (rest, t') ∧ xs = x :: rest := by
  rw [items]
  rcases t.nextItem first with e | ⟨_ | _, t1⟩
  · simp
  · simp [eq_comm]
  · rcases one : item t1 with e | ⟨x, t2⟩
    · simp [one]
    · rcases others : items item false steps t2 with e | ⟨rest, t3⟩ <;> simp [one, others, eq_comm, and_comm]

theorem members_succ {value : Reader α} {first : Bool} {steps : Nat} {ms : List (String × α)} :
    members value first (steps + 1) t = .ok (ms, t') ↔
      (∃ t1, t.nextKey first = .ok (none, t1) ∧ ms = [] ∧ t' = t1.next) ∨
      ∃ name t1 t2 x t3 rest, t.nextKey first = .ok (some name, t1) ∧ t1.colon = .ok t2 ∧ value t2 = .ok (x, t3) ∧
        members value false steps t3 = .ok (rest, t') ∧ ms = (name, x) :: rest := by
  rw [members]
  rcases t.nextKey first with e | ⟨_ | name, t1⟩
  · simp
  · simp [eq_comm]
  · rcases colon : t1.colon with e | t2
    · simp [colon]
    · rcases one : value t2 with e | ⟨x, t3⟩
      · simp [colon, one]
      · rcases others : members value false steps t3 with e | ⟨rest, t4⟩ <;>
          simp [colon, one, others, eq_comm, and_comm]

/-- An object ends with a brace. -/
theorem nextKey_none {first : Bool} :
    t.nextKey first = .ok (none, t') ↔ (∃ more, t.skipSpace.rest = '\x7d' :: more) ∧ t' = t.skipSpace := by
  have keyed (u : Tape) : (u.string.map fun key => (some key.1, key.2)) ≠ .ok (none, t') := by
    intro read
    obtain ⟨_, -, same⟩ := map_ok.mp read
    simp at same
  unfold nextKey
  simp only
  split
  · next ended => simp [ended, fail_ne_ok]
  · next more closed => simp [closed, eq_comm]
  · next x more notClosed other =>
    have unclosed : ¬∃ more, t.skipSpace.rest = '\x7d' :: more := by
      rintro ⟨more, closed⟩
      exact notClosed (List.cons.inj (other.symm.trans closed)).1
    simp only [unclosed, false_and, iff_false]
    split
    · split
      · exact keyed _
      · exact failAhead_ne_ok
    · split
      · split
        · exact fail_ne_ok
        · exact keyed _
        · exact failAhead_ne_ok
        · exact failAhead_ne_ok
      · exact failAhead_ne_ok

/-- The first key of an object is a string. -/
theorem nextKey_some {name : String} :
    t.nextKey true = .ok (some name, t') ↔
      (∃ more, t.skipSpace.rest = '"' :: more) ∧ t.skipSpace.string = .ok (name, t') := by
  unfold nextKey
  simp only [if_true]
  split
  · next ended => simp [ended, fail_ne_ok]
  · next more closed => simp [closed]
  · next x more _ other =>
    split
    · next quote => simp [other, quote, map_ok]
    · next notQuote => simp [other, notQuote, failAhead_ne_ok]

/-- An object with one member. -/
theorem members_one {value : Reader α} {steps : Nat} {name : String} {x : α} :
    members value true (steps + 2) t = .ok ([(name, x)], t') ↔ ∃ t1 t2 t3, t.nextKey true = .ok (some name, t1) ∧
      t1.colon = .ok t2 ∧ value t2 = .ok (x, t3) ∧ (∃ more, t3.skipSpace.rest = '\x7d' :: more) ∧
      t' = t3.skipSpace.next := by
  rw [members_succ]
  constructor
  · rintro (⟨_, -, none, -⟩ | ⟨name', t1, t2, x', t3, rest, key, colon, one, others, same⟩)
    · simp at none
    · obtain ⟨member, rfl⟩ := List.cons.inj same
      obtain ⟨rfl, rfl⟩ := Prod.mk.inj member
      rcases members_succ.mp others with ⟨t4, ended, -, rfl⟩ | ⟨_, _, _, _, _, _, -, -, -, -, more⟩
      · obtain ⟨closed, rfl⟩ := nextKey_none.mp ended
        exact ⟨t1, t2, t3, key, colon, one, closed, rfl⟩
      · simp at more
  · rintro ⟨t1, t2, t3, key, colon, one, closed, rfl⟩
    have ended : members value false (steps + 1) t3 = .ok ([], t3.skipSpace.next) :=
      members_succ.mpr (.inl ⟨_, nextKey_none.mpr ⟨closed, rfl⟩, rfl, rfl⟩)
    exact .inr ⟨name, t1, t2, x, t3, [], key, colon, one, ended, rfl⟩

/-- One reader accepts what another does, as something that is related to what the other makes of it, and comes to the
same place. -/
def Agrees (related : β → α → Prop) (reader : Reader α) (other : Reader β) (t : Tape) : Prop :=
  ∀ x t', reader t = .ok (x, t') ↔ ∃ y, other t = .ok (y, t') ∧ related y x

/-- Lists are read alike if their items are. -/
theorem Agrees.items {related : β → α → Prop} {item : Reader α} {other : Reader β}
    (agree : ∀ t, t.skipSpace = t → Agrees related item other t) (first : Bool) (steps : Nat) (t : Tape) :
    Agrees (List.Forall₂ related) (items item first steps) (items other first steps) t := by
  induction steps generalizing first t with
  | zero =>
    intro xs t'
    simp [Tape.items, fail_ne_ok]
  | succ steps ih =>
    intro xs t'
    rw [items_succ]
    constructor
    · rintro (⟨t1, ended, rfl, rfl⟩ | ⟨t1, x, t2, rest, more, one, others, rfl⟩)
      · exact ⟨[], items_succ.mpr (.inl ⟨t1, ended, rfl, rfl⟩), .nil⟩
      · obtain ⟨y, read, same⟩ := (agree t1 (nextItem_solid more) x t2).mp one
        obtain ⟨ys, reads, alike⟩ := (ih false t2 rest t').mp others
        exact ⟨y :: ys, items_succ.mpr (.inr ⟨t1, y, t2, ys, more, read, reads, rfl⟩), .cons same alike⟩
    · rintro ⟨ys, read, alike⟩
      rcases items_succ.mp read with ⟨t1, ended, rfl, rfl⟩ | ⟨t1, y, t2, rest, more, one, others, rfl⟩
      · cases alike
        exact .inl ⟨t1, ended, rfl, rfl⟩
      · cases alike with
        | @cons _ x _ xs same alike =>
          have first := (agree t1 (nextItem_solid more) x t2).mpr ⟨y, one, same⟩
          have further := (ih false t2 xs t').mpr ⟨rest, others, alike⟩
          exact .inr ⟨t1, x, t2, xs, more, first, further, rfl⟩

end Tape
end Lexicon.Json

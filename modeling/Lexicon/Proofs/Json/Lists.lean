import Lexicon.Proofs.Json.Strings

/-! Lists and objects of a JSON text are read back item by item, and member by member. -/
namespace Lexicon.Json

/-- The comma before an item that is not the first. -/
def comma (first : Bool) : List Char := if first then [] else [',']

/-- Written items with commas between them. -/
def separated {α : Type} (write : α → List Char) (first : Bool) : List α → List Char
  | [] => []
  | x :: xs => comma first ++ write x ++ separated write false xs

theorem intercalate_toList {α : Type} (write : α → String) (xs : List α) :
    (",".intercalate (xs.map write)).toList = separated (fun x => (write x).toList) true xs := by
  induction xs with
  | nil => rfl
  | cons x xs ih =>
    cases xs with
    | nil => simp [separated, comma]
    | cons y ys =>
      rw [List.map_cons] at ih
      rw [List.map_cons, List.map_cons, String.intercalate_cons_cons, String.toList_append, String.toList_append, ih]
      simp [separated, comma]

theorem length_le_separated {α : Type} {write : α → List Char} (written : ∀ x, write x ≠ []) (first : Bool)
    (xs : List α) : xs.length ≤ (separated write first xs).length := by
  induction xs generalizing first with
  | nil => exact Nat.zero_le _
  | cons x xs ih =>
    have some : 0 < (write x).length := List.length_pos_iff.mpr (written x)
    have rest := ih false
    simp only [separated, List.length_append, List.length_cons]
    omega

/-- A text that starts with neither a blank nor the end of a list. -/
def Opens (text : List Char) : Prop := ∃ c more, text = c :: more ∧ Tape.isSpace c = false ∧ c ≠ ']'

theorem Opens.append {text : List Char} (opens : Opens text) (more : List Char) : Opens (text ++ more) := by
  obtain ⟨c, rest, rfl, shown⟩ := opens
  exact ⟨c, rest ++ more, rfl, shown⟩

theorem Opens.ne_nil {text : List Char} (opens : Opens text) : text ≠ [] := by
  obtain ⟨c, rest, rfl, -⟩ := opens
  simp

namespace Tape

theorem finish_of {t : Tape} (ended : t.rest = []) : t.finish = .ok () := by
  have none : t.skipSpace = t := by simp [skipSpace, ended, skip]
  simp [finish, none, ended]

theorem colon_of {t : Tape} {more : List Char} (stands : t.rest = ':' :: more) : t.colon = .ok t.next := by
  simp only [colon, skipSpace_of stands rfl, stands]

theorem value_read (depth : Nat) (text : String) :
    Reads (value (depth + 1)) (writeString text).toList (.string text) := by
  intro t more stands
  obtain ⟨t', read, rest⟩ := string_read text t more stands
  rw [writeString_toList, List.cons_append] at stands
  exact ⟨t', by simp [value, scalar, skipSpace_of stands rfl, stands, read, Except.map], rest⟩

/-! Objects. -/

theorem nextKey_end {t : Tape} {more : List Char} (stands : t.rest = '\x7d' :: more) (first : Bool) :
    t.nextKey first = .ok (none, t) := by
  simp only [nextKey, skipSpace_of stands rfl, stands]

theorem nextKey_read (first : Bool) (name : String) :
    Reads (nextKey first) (comma first ++ (writeString name).toList) (some name) := by
  intro t more stands
  cases first with
  | true =>
    rw [comma, if_pos rfl, List.nil_append] at stands
    obtain ⟨t', read, rest⟩ := string_read name t more stands
    rw [writeString_toList, List.cons_append] at stands
    exact ⟨t', by simp [nextKey, skipSpace_of stands rfl, stands, read, Except.map], rest⟩
  | false =>
    rw [comma, if_neg Bool.false_ne_true, List.singleton_append, List.cons_append] at stands
    have behind := next_rest stands
    obtain ⟨t', read, rest⟩ := string_read name t.next more behind
    rw [writeString_toList, List.cons_append] at behind
    refine ⟨t', ?_, rest⟩
    simp [nextKey, skipSpace_of stands rfl, stands, skipSpace_of behind rfl, behind, read, Except.map]

/-! Lists. -/

theorem nextItem_end {t : Tape} {more : List Char} (stands : t.rest = ']' :: more) (first : Bool) :
    t.nextItem first = .ok (false, t) := by
  simp only [nextItem, skipSpace_of stands rfl, stands]

theorem nextItem_more {t : Tape} {first : Bool} {text : List Char} (opens : Opens text)
    (stands : t.rest = comma first ++ text) : ∃ t', t.nextItem first = .ok (true, t') ∧ t'.rest = text := by
  obtain ⟨c, more, rfl, solid, notEnd⟩ := opens
  cases first with
  | true =>
    rw [comma, if_pos rfl, List.nil_append] at stands
    refine ⟨t, ?_, stands⟩
    unfold nextItem
    simp only [skipSpace_of stands solid]
    split
    · next ended => simp [ended] at stands
    · next closed => exact absurd (List.cons.inj (stands.symm.trans closed)).1 notEnd
    · rfl
  | false =>
    rw [comma, if_neg Bool.false_ne_true, List.singleton_append] at stands
    have behind := next_rest stands
    refine ⟨t.next, ?_, behind⟩
    unfold nextItem
    simp only [skipSpace_of stands rfl, stands, Bool.false_eq_true, if_false, skipSpace_of behind solid]
    split
    · next ended => simp at ended
    · next closed => simp at closed
    · next other =>
      obtain ⟨rfl, -⟩ := List.cons.inj other
      rw [if_pos rfl]
      split
      · next ended => simp [ended] at behind
      · next closed => exact absurd (List.cons.inj (behind.symm.trans closed)).1 notEnd
      · rfl

/-- Items that are read back one by one are read back as a list. -/
theorem items_read {α : Type} {item : Reader α} {write : α → List Char} (opens : ∀ x, Opens (write x))
    (reads : ∀ x, Reads item (write x) x) (xs : List α) {first : Bool} {steps : Nat} (enough : xs.length < steps) :
    Reads (items item first steps) (separated write first xs ++ [']']) xs := by
  induction xs generalizing first steps with
  | nil =>
    intro t more stands
    obtain ⟨steps, rfl⟩ := Nat.exists_eq_add_one.mpr enough
    refine ⟨t.next, ?_, next_rest stands⟩
    simp only [items, nextItem_end stands]
  | cons x xs ih =>
    intro t more stands
    obtain ⟨steps, rfl⟩ := Nat.exists_eq_add_one.mpr (Nat.zero_lt_of_lt enough)
    have fewer : xs.length < steps := Nat.lt_of_succ_lt_succ enough
    simp only [separated, List.append_assoc] at stands
    obtain ⟨t1, next, ahead⟩ := nextItem_more ((opens x).append _) stands
    obtain ⟨t2, one, between⟩ := reads x t1 _ ahead
    rw [← List.append_assoc] at between
    obtain ⟨t3, others, behind⟩ := ih fewer t2 more between
    exact ⟨t3, by simp only [items, next, one, others], behind⟩

end Tape
end Lexicon.Json

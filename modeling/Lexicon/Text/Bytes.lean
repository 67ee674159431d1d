import Lexicon.Text.Span

/-! The length of a text in bytes, and offsets counted in bytes. -/
namespace Lexicon

/-- How many bytes a text takes in UTF-8. -/
def utf8Length : List Char → Nat
  | [] => 0
  | c :: rest => c.utf8Size + utf8Length rest

@[simp] theorem utf8Length_append (a b : List Char) :
    utf8Length (a ++ b) = utf8Length a + utf8Length b := by
  induction a with
  | nil => simp [utf8Length]
  | cons c rest ih => simp [utf8Length, ih, Nat.add_assoc]

/-- How many characters of a text stand before a byte offset. Inside of a character, and beyond the end of the
text, there is no such place. -/
def charOffset? (text : List Char) (offset : Nat) : Option Nat :=
  go 0 offset text
where
  go (count : Nat) : (offset : Nat) → List Char → Option Nat
    | 0, _ => some count
    | _ + 1, [] => none
    | offset + 1, c :: rest =>
      if c.utf8Size ≤ offset + 1 then go (count + 1) (offset + 1 - c.utf8Size) rest else none

/-- The text between two byte offsets. -/
def sliceBytes? (text : List Char) (bytes : Span) : Option (List Char) :=
  match charOffset? text bytes.start, charOffset? text bytes.stop with
  | some first, some last =>
    if bytes.start ≤ bytes.stop then some ((text.drop first).take (last - first)) else none
  | _, _ => none

private theorem charOffset?.go_take {text : List Char} {taken : Nat} (within : taken ≤ text.length) (count : Nat) :
    go count (utf8Length (text.take taken)) text = some (count + taken) := by
  induction text generalizing taken count with
  | nil =>
    rw [Nat.le_zero.mp within]
    rfl
  | cons c rest ih =>
    cases taken with
    | zero => rfl
    | succ taken =>
      have some := c.utf8Size_pos
      have later := ih (Nat.le_of_succ_le_succ within) (count + 1)
      rw [List.take_succ_cons, utf8Length]
      generalize utf8Length (rest.take taken) = length at later ⊢
      obtain ⟨offset, same⟩ : ∃ offset, c.utf8Size + length = offset + 1 := ⟨c.utf8Size + length - 1, by omega⟩
      rw [same, go, if_pos (by omega), show offset + 1 - c.utf8Size = length by omega, later, Nat.add_right_comm,
        Nat.add_assoc]

/-- Where a character ends, as many characters stand before as were taken. -/
theorem charOffset?_take {text : List Char} {taken : Nat} (within : taken ≤ text.length) :
    charOffset? text (utf8Length (text.take taken)) = some taken := by
  rw [charOffset?, charOffset?.go_take within, Nat.zero_add]

theorem utf8Length_take_mono (text : List Char) {first last : Nat} (ordered : first ≤ last) :
    utf8Length (text.take first) ≤ utf8Length (text.take last) := by
  rw [← Nat.add_sub_cancel' ordered, List.take_add, utf8Length_append]
  exact Nat.le_add_right _ _

theorem utf8Length_take_lt {text : List Char} {first last : Nat} (ordered : first < last)
    (within : last ≤ text.length) : utf8Length (text.take first) < utf8Length (text.take last) := by
  have next := utf8Length_take_mono text (Nat.succ_le_of_lt ordered)
  have inside : first < text.length := Nat.lt_of_lt_of_le ordered within
  have positive := text[first].utf8Size_pos
  rw [List.take_succ_eq_append_getElem inside, utf8Length_append, utf8Length, utf8Length] at next
  omega

/-- Between the ends of characters stand the characters between. -/
theorem sliceBytes?_take {text : List Char} {first last : Nat} (ordered : first ≤ last) (within : last ≤ text.length) :
    sliceBytes? text ⟨utf8Length (text.take first), utf8Length (text.take last)⟩ =
      some ((text.drop first).take (last - first)) := by
  simp only [sliceBytes?, charOffset?_take (Nat.le_trans ordered within), charOffset?_take within]
  rw [if_pos (utf8Length_take_mono text ordered)]

end Lexicon

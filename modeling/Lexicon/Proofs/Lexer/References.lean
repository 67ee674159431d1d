import Lexicon.Proofs.Lexer.Alignment
import Lexicon.Proofs.Lexer.Verdict

/-! References between tokens. A lexer stores a reference only to a token that the table holds already, so that every
stored reference goes back, and following references comes to a value that is none. -/
namespace Lexicon
namespace ValueTable
variable {ν : Type} {t : ValueTable ν}

/-- Every reference goes to a token with a smaller number. -/
def Backward (t : ValueTable ν) : Prop :=
  ∀ id target, t.value? id = some (.ref target) → target.number < id.number

theorem Backward.known {id target : TokenId} (backward : t.Backward) (found : t.value? id = some (.ref target)) :
    t.contains target = true := by
  have before := backward id target found
  have known := contains_of_value? found
  rw [contains_iff] at known ⊢
  omega

/-- The new entry comes last, and the others stay as they are. -/
theorem value?_push {id : TokenId} {e : Entry ν} {value : Value ν}
    (found : (ValueTable.mk (t.entries.push e)).value? id = some value) :
    t.value? id = some value ∨ id.number = t.size + 1 ∧ e.value = value := by
  have positive := id.positive
  rw [value?, entry?, Array.getElem?_push] at found
  split at found
  · next last => exact .inr ⟨by rw [size]; omega, by simpa using found⟩
  · exact .inl found

/-- A value may be stored whose reference, if it is one, is to a stored token. -/
theorem Backward.append {t' : ValueTable ν} {value : Value ν} {range bytes : Span} {id : TokenId}
    (backward : t.Backward) (known : ∀ target, value = .ref target → t.contains target = true)
    (stored : t.append value range bytes = .ok (id, t')) : t'.Backward := by
  obtain ⟨-, rfl⟩ := append_ok stored
  intro other target found
  rcases value?_push found with old | ⟨last, same⟩
  · exact backward other target old
  · have present := contains_iff.mp (known target same)
    omega

/-- Where all references go back, every token stands for a value that is no reference in the end. -/
theorem Backward.resolve {id : TokenId} (backward : t.Backward) (known : t.contains id = true) :
    ∃ value, t.resolve id = some value ∧ ∀ target, value ≠ .ref target := by
  fun_induction ValueTable.resolve t id with
  | case1 id target found before ih => exact ih (backward.known found)
  | case2 id target found notBefore => exact absurd (backward id target found) notBefore
  | case3 id other =>
    obtain ⟨value, found⟩ := value?_of_contains known
    exact ⟨value, found, fun target same => other target (same ▸ found)⟩

end ValueTable

namespace Lexer
variable {σ κ ν : Type}

theorem kept_backward : Kept fun l : Lexer σ κ ν => l.table.Backward where
  passes := by
    intro l l' s s' passes backward
    obtain ⟨-, -, table⟩ := passes.frame
    exact table ▸ backward
  ends := by
    intro l l' s s' outcome ends backward
    cases ends with
    | endOfInput => exact backward
    | error left fails =>
      obtain ⟨hit, found⟩ := fails.hit
      obtain ⟨locations, rfl⟩ := hit?_eq found
      exact backward
    | token left found computed known stored =>
      exact backward.append (dangling?_eq_none.mp known) stored
  status := id

/-- Stored references go back and come to an end, whatever the handlers answer and whatever is called. A token never
refers to itself, to a later token or to one that is not stored, and following the references from any stored token
leads to a value that is no reference. -/
theorem run_references_resolve (registry : Registry σ κ ν) (hook : Option (Hook σ)) (source : List Char)
    (calls : List Call) (s : σ) :
    let table := ((ofSource registry hook source).run s calls).2.1.table
    (∀ id target, table.value? id = some (.ref target) →
      target.number < id.number ∧ table.contains target = true) ∧
      ∀ id, table.contains id = true → ∃ value, table.resolve id = some value ∧ ∀ target, value ≠ .ref target := by
  intro table
  have fresh : (ofSource registry hook source).table.Backward := by
    intro id target found
    simp [ofSource, ValueTable.empty, ValueTable.value?, ValueTable.entry?] at found
  have backward : table.Backward := kept_backward.run calls _ s fresh
  constructor
  · intro id target found
    exact ⟨backward id target found, backward.known found⟩
  · intro id known
    exact backward.resolve known

end Lexer
end Lexicon

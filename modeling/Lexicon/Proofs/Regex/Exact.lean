import Lexicon.Proofs.Regex.Alternation
import Lexicon.Proofs.Regex.CharSet

/-! Sequences of single characters match one text, and nothing else. -/
namespace Lexicon.Regex

/-- The instructions that take the characters of a text, each of which goes on at the next one. -/
def letters : (text : List Char) → (base : Nat) → List Instr
  | [], _ => []
  | c :: text, base => .chars (.single c) (base + 1) :: letters text (base + 1)

@[simp] theorem letters_length (text : List Char) (base : Nat) : (letters text base).length = text.length := by
  induction text generalizing base with
  | nil => rfl
  | cons c text ih => rw [letters, List.length_cons, List.length_cons, ih]

theorem Thread.follow_single {t : Thread} {c : Char} {more : List Char} (left : t.rest = c :: more) (next : Nat) :
    t.follow (.chars (.single c) next) =
      [{ t with address := next, before := some c, rest := more, taken := t.taken + 1 }] := by
  simp [follow, left, CharSet.contains_single.mpr]

theorem Thread.follow_other {t : Thread} {c : Char} (other : t.rest.head? ≠ some c) (next : Nat) :
    t.follow (.chars (.single c) next) = [] := by
  cases left : t.rest with
  | nil => simp [follow, left]
  | cons d rest =>
    have apart : ¬(CharSet.single c).contains d = true := by
      rw [CharSet.contains_single]
      rintro rfl
      simp [left] at other
    simp [follow, left, apart]

/-- The letters of a text lead to the end behind them if the rest of the text starts with them, and else nowhere. -/
theorem letters_explores {whole : Array Instr} (text : List Char) {base : Nat} (before : Option Char) (rest : List Char)
    (taken : Nat) {seen : Finset Entry} (placed : Placed whole base (letters text base))
    (accepts : whole[base + text.length]? = some .accept) (below : ∀ place ∈ seen, place.1 < base) :
    ∃ result : Option Thread,
      result.map Thread.outcome = (if text <+: rest then some (taken + text.length, []) else none) ∧
      Explores whole [⟨base, before, rest, taken, []⟩] seen result := by
  induction text generalizing base before rest taken seen with
  | nil => exact ⟨_, by simp [Thread.outcome], .accept (Thread.entry_notMem below) accepts⟩
  | cons c text ih =>
    by_cases same : rest.head? = some c
    · obtain ⟨more, rfl⟩ := List.head?_eq_some_iff.mp same
      have later : ∀ place ∈ insert (⟨base, before, c :: more, taken, []⟩ : Thread).entry seen, place.1 < base + 1 :=
        Thread.insert_below below
      rw [List.length_cons, Nat.add_comm text.length, ← Nat.add_assoc] at accepts
      obtain ⟨result, outcome, explores⟩ := ih (some c) more (taken + 1) placed.tail accepts later
      refine ⟨result, ?_, .follow (Thread.entry_notMem below) placed.head (by simp) ?_⟩
      · rw [outcome, List.length_cons, Nat.add_assoc, Nat.add_comm 1]
        simp
      · rw [Thread.follow_single rfl]
        exact explores
    · have other : ¬c :: text <+: rest := by
        rintro ⟨behind, rfl⟩
        exact same rfl
      refine ⟨none, by rw [if_neg other]; rfl, .follow (Thread.entry_notMem below) placed.head (by simp) ?_⟩
      rw [Thread.follow_other same]
      exact .exhausted

namespace Expr

/-- The expression that takes the characters of a text one after the other. -/
def exactly (text : List Char) : Expr := chain (text.map fun c => ofSet true (.single c))

theorem exactly_cons (c : Char) (text : List Char) :
    exactly (c :: text) =
      if text = [] then ofSet true (.single c) else seq (ofSet true (.single c)) (exactly text) := by
  cases text <;> rfl

theorem exactly_size {text : List Char} (nonempty : text ≠ []) : (exactly text).size = text.length := by
  induction text with
  | nil => exact absurd rfl nonempty
  | cons c text ih =>
    rw [exactly_cons]
    split
    · next last =>
      rw [last]
      rfl
    · next more =>
      rw [size, ih more, List.length_cons, size_ofSet, Nat.add_comm]

theorem exactly_code {text : List Char} (nonempty : text ≠ []) (base : Nat) :
    (exactly text).code base (base + text.length) = letters text base := by
  induction text generalizing base with
  | nil => exact absurd rfl nonempty
  | cons c text ih =>
    rw [exactly_cons]
    split
    · next last =>
      rw [last]
      rfl
    · next more =>
      rw [code, size_ofSet, List.length_cons, Nat.add_comm text.length, ← Nat.add_assoc, ih more]
      rfl

/-- A text is found where the rest of the text starts with it. No group takes part. -/
theorem matchHere_exactly (text rest : List Char) :
    (matchHere (exactly text).program none rest).map Thread.outcome =
      if text <+: rest then some (text.length, []) else none := by
  by_cases nothing : text = []
  · have found : matchHere (exactly []).program none rest = some ⟨1, none, rest, 0, []⟩ :=
      matchHere_eq (.follow (by simp) (show (exactly []).program[0]? = some (.jump 1) from rfl) (by simp)
        (.accept (by simp [Thread.entry]) rfl))
    rw [nothing, found]
    simp [Thread.outcome]
  · have block := exactly_code nothing 0
    rw [Nat.zero_add] at block
    have placed : Placed (exactly text).program 0 (letters text 0 ++ [Instr.accept]) := by
      rw [program, exactly_size nothing, block]
      exact Placed.whole _
    have accepts := placed.right.head
    rw [letters_length] at accepts
    have early : ∀ place ∈ (∅ : Finset Entry), place.1 < 0 := by simp
    obtain ⟨result, outcome, explores⟩ := letters_explores text none rest 0 placed.left accepts early
    rw [matchHere_eq explores, outcome, Nat.zero_add]

end Expr
end Lexicon.Regex

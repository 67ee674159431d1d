import Lexicon.Unicode.Property

/-! What is said of characters changes at the turns only: characters between which there is none have the same
category, the same script and the same properties. -/
namespace Lexicon.Unicode

/-! ### Tables -/

section
variable {table : Array Nat} {key other : Nat}

/-- The search depends on the entries that are at most the key. -/
theorem narrow_congr (same : ∀ entry ∈ table, entry ≤ key ↔ entry ≤ other) (steps low : Nat) {high : Nat}
    (inside : high ≤ table.size) : narrow table key steps low high = narrow table other steps low high := by
  induction steps generalizing low high with
  | zero => rfl
  | succ steps ih =>
    simp only [narrow]
    split
    · next more =>
      have within : (low + high) / 2 < table.size := by omega
      have entry : table.getD ((low + high) / 2) 0 ∈ table := by
        rw [Array.getD_eq_getD_getElem?, Array.getElem?_eq_getElem within, Option.getD_some]
        exact Array.getElem_mem within
      rw [ih _ inside, ih low (by omega)]
      simp only [same _ entry]
    · rfl

theorem rank_congr (same : ∀ entry ∈ table, entry ≤ key ↔ entry ≤ other) : rank table key = rank table other :=
  narrow_congr same _ 0 (Nat.le_refl _)

theorem insideEdges_congr (same : ∀ entry ∈ table, entry ≤ key ↔ entry ≤ other) :
    insideEdges table key = insideEdges table other := by
  rw [insideEdges, rank_congr same, insideEdges]

theorem runMark_congr (same : ∀ entry ∈ table, entry / 256 ≤ key ↔ entry / 256 ≤ other) :
    runMark table key = runMark table other := by
  have entries : ∀ entry ∈ table, entry ≤ key * 256 + 255 ↔ entry ≤ other * 256 + 255 := by
    intro entry member
    have start := same entry member
    omega
  rw [runMark, rank_congr entries, runMark]

end

/-! ### Characters -/

/-- Where the blanks behind ASCII are. -/
def blankRanges : List (Nat × Nat) :=
  [(0x85, 0x86), (0xA0, 0xA1), (0x1680, 0x1681), (0x2000, 0x200B), (0x2028, 0x202A), (0x202F, 0x2030),
    (0x205F, 0x2060), (0x3000, 0x3001)]

theorem blankRanges_bounds : ∀ range ∈ blankRanges, range.1 ∈ bounds ∧ range.2 ∈ bounds := by decide

theorem isBlank_above {c : Char} (above : ¬c.toNat < 128) :
    isBlank c = true ↔ ∃ range ∈ blankRanges, range.1 ≤ c.toNat ∧ c.toNat < range.2 := by
  simp only [isBlank, blankRanges, Bool.or_eq_true, Bool.and_eq_true, decide_eq_true_eq, beq_iff_eq, List.mem_cons,
    List.not_mem_nil, or_false, exists_eq_or_imp, exists_eq_left]
  omega

theorem isHexDigit_above {c : Char} (above : ¬c.toNat < 128) : isHexDigit c = false := by
  have own : c.toNat = c.val.toNat := rfl
  simp only [isHexDigit, Char.isDigit, Char.le_def, UInt32.le_iff_toNat_le, Bool.or_eq_false_iff,
    Bool.and_eq_false_iff, decide_eq_false_iff_not, ge_iff_le]
  have digits : '9'.val.toNat = 57 ∧ 'f'.val.toNat = 102 ∧ 'F'.val.toNat = 70 := by decide
  omega

/-- No turn lies between two characters. -/
def Together (c d : Char) : Prop := ∀ turn ∈ turns, turn ≤ c.toNat ↔ turn ≤ d.toNat

namespace Together
variable {c d : Char}

theorem table (together : Together c d) {edges : Array Nat} (among : edges.toList ⊆ turns) :
    insideEdges edges c.toNat = insideEdges edges d.toNat :=
  insideEdges_congr fun _ member => together _ (among (Array.mem_toList_iff.mpr member))

theorem runs (together : Together c d) {runs : Array Nat} (among : runs.toList.map (· / 256) ⊆ turns) :
    runMark runs c.toNat = runMark runs d.toNat :=
  runMark_congr fun _ member =>
    together _ (among (List.mem_map_of_mem (Array.mem_toList_iff.mpr member)))

theorem bound (together : Together c d) {turn : Nat} (member : turn ∈ bounds) : turn ≤ c.toNat ↔ turn ≤ d.toNat :=
  together turn (by simp [turns, member])

/-- Two characters are the same, or they are behind ASCII. -/
theorem same_or_above (together : Together c d) : c = d ∨ (¬c.toNat < 128 ∧ ¬d.toNat < 128) := by
  have early (turn : Nat) (within : turn < 129) : turn ≤ c.toNat ↔ turn ≤ d.toNat :=
    together turn (by simp [turns, within])
  by_cases above : 128 ≤ c.toNat
  · have last := early 128 (by decide)
    exact .inr ⟨by omega, by omega⟩
  · left
    apply Char.toNat_inj.mp
    have own := early c.toNat (by omega)
    have next := early (c.toNat + 1) (by omega)
    omega

theorem category (together : Together c d) : Category.ofChar c = Category.ofChar d := by
  rw [Category.ofChar, Category.ofChar, together.runs fun turn member => by simp [turns, member]]

theorem script (together : Together c d) (s : Script) : s.contains c = s.contains d := by
  rw [Script.contains, Script.contains, together.runs fun turn member => by simp [turns, member]]

theorem isBlank (together : Together c d) : isBlank c = isBlank d := by
  rcases together.same_or_above with rfl | ⟨own, other⟩
  · rfl
  · rw [Bool.eq_iff_iff, isBlank_above own, isBlank_above other]
    refine exists_congr fun range => and_congr_right fun member => ?_
    obtain ⟨first, past⟩ := blankRanges_bounds range member
    rw [together.bound first, ← Nat.not_le, together.bound past, Nat.not_le]

theorem isJoinControl (together : Together c d) : isJoinControl c = isJoinControl d := by
  have first := together.bound (show 0x200C ∈ bounds by decide)
  have last := together.bound (show 0x200E ∈ bounds by decide)
  rw [Bool.eq_iff_iff]
  simp only [Unicode.isJoinControl, Bool.or_eq_true, beq_iff_eq]
  omega

theorem isDecimal (together : Together c d) : isDecimal c = isDecimal d := by
  rcases together.same_or_above with rfl | ⟨own, other⟩
  · rfl
  · rw [Unicode.isDecimal, Unicode.isDecimal, if_neg own, if_neg other, together.category]

theorem isAlphabetic (together : Together c d) : isAlphabetic c = isAlphabetic d := by
  rcases together.same_or_above with rfl | ⟨own, other⟩
  · rfl
  · rw [Unicode.isAlphabetic, Unicode.isAlphabetic, if_neg own, if_neg other, together.category,
      together.table fun turn member => by simp [turns, member]]

theorem isWordChar (together : Together c d) : isWordChar c = isWordChar d := by
  rcases together.same_or_above with rfl | ⟨own, other⟩
  · rfl
  · rw [Unicode.isWordChar, Unicode.isWordChar, if_neg own, if_neg other, together.category, together.isAlphabetic,
      together.isJoinControl]

theorem isLowercase (together : Together c d) : isLowercase c = isLowercase d := by
  rw [Unicode.isLowercase, Unicode.isLowercase, together.category,
    together.table fun turn member => by simp [turns, member]]

theorem isUppercase (together : Together c d) : isUppercase c = isUppercase d := by
  rw [Unicode.isUppercase, Unicode.isUppercase, together.category,
    together.table fun turn member => by simp [turns, member]]

theorem isGraphemeExtend (together : Together c d) : isGraphemeExtend c = isGraphemeExtend d := by
  rcases together.same_or_above with rfl | ⟨own, other⟩
  · rfl
  · rw [Unicode.isGraphemeExtend, Unicode.isGraphemeExtend, if_neg own, if_neg other, together.category,
      together.table fun turn member => by simp [turns, member]]

theorem isHexDigit (together : Together c d) : isHexDigit c = isHexDigit d := by
  rcases together.same_or_above with rfl | ⟨own, other⟩
  · rfl
  · rw [isHexDigit_above own, isHexDigit_above other]

/-- A property holds of both or of neither. -/
theorem property (together : Together c d) (p : Property) : p.contains c = p.contains d := by
  cases p with
  | any => rfl
  | assigned => rw [Property.contains, Property.contains, together.category]
  | ascii =>
    rcases together.same_or_above with rfl | ⟨own, other⟩
    · rfl
    · rw [Property.contains, Property.contains, decide_eq_false own, decide_eq_false other]
  | alphabetic => exact together.isAlphabetic
  | lowercase => exact together.isLowercase
  | uppercase => exact together.isUppercase
  | whiteSpace => exact together.isBlank
  | joinControl => exact together.isJoinControl
  | graphemeExtend => exact together.isGraphemeExtend
  | asciiHexDigit => exact together.isHexDigit
  | category group =>
    -- Decimal digits have a test of their own.
    by_cases decimal : group = .one .decimalNumber
    · rw [decimal]
      exact together.isDecimal
    · simp only [Property.contains, together.category]
  | script s => exact together.script s

end Together
end Lexicon.Unicode

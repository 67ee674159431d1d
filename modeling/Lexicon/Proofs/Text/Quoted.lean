import Lexicon.Text.Quoted

/-! Numbers and quoted texts can be read in one way only: no character is written as the start of how another one is
written, and a quote inside of a quoted text stands behind a backslash. -/
namespace Lexicon

/-- Texts that a mark ends for the first time are the same, and so is what is behind the mark. -/
theorem split_at_mark {α : Type} {mark : α} {a b x y : List α} (own : mark ∉ a) (other : mark ∉ b)
    (same : a ++ mark :: x = b ++ mark :: y) : a = b ∧ x = y := by
  induction a generalizing b with
  | nil =>
    cases b with
    | nil => exact ⟨rfl, (List.cons.inj same).2⟩
    | cons c b =>
      obtain ⟨rfl, -⟩ := List.cons.inj same
      exact absurd List.mem_cons_self other
  | cons c a ih =>
    cases b with
    | nil =>
      obtain ⟨rfl, -⟩ := List.cons.inj same
      exact absurd List.mem_cons_self own
    | cons d b =>
      obtain ⟨rfl, rest⟩ := List.cons.inj same
      obtain ⟨rfl, behind⟩ := ih (mt (List.mem_cons_of_mem c) own) (mt (List.mem_cons_of_mem c) other) rest
      exact ⟨rfl, behind⟩

namespace Numeral
variable {base : Nat}

theorem digitChar_inj : ∀ m < 16, ∀ n < 16, Nat.digitChar m = Nat.digitChar n → m = n := by decide

/-- A number is written in digits. -/
theorem notMem_toDigits (several : 1 < base) {mark : Char} (strange : ∀ digit, Nat.digitChar digit ≠ mark) (n : Nat) :
    mark ∉ Nat.toDigits base n := by
  induction n using Nat.strongRecOn with
  | ind n ih =>
    rw [Nat.toDigits_eq_if several]
    split
    · simpa using (strange n).symm
    · next large =>
      have fewer : n / base < n := Nat.div_lt_self (by omega) several
      simpa using ⟨ih _ fewer, (strange (n % base)).symm⟩

theorem toDigits_inj (several : 1 < base) (few : base ≤ 16) {m n : Nat}
    (same : Nat.toDigits base m = Nat.toDigits base n) : m = n := by
  induction m using Nat.strongRecOn generalizing n with
  | ind m ih =>
    rw [Nat.toDigits_eq_if several, Nat.toDigits_eq_if several (n := n)] at same
    split at same <;> split at same
    · exact digitChar_inj m (by omega) n (by omega) (List.cons.inj same).1
    · have lengths := congrArg List.length same
      simp [Nat.toDigits_ne_nil] at lengths
    · have lengths := congrArg List.length same
      simp [Nat.toDigits_ne_nil] at lengths
    · next large _ =>
      obtain ⟨front, last⟩ := List.append_inj' same rfl
      have high := ih (m / base) (Nat.div_lt_self (by omega) several) front
      have below (k : Nat) : k % base < 16 := Nat.lt_of_lt_of_le (Nat.mod_lt k (by omega)) few
      have low := digitChar_inj _ (below m) _ (below n) (List.cons.inj last).1
      rw [← Nat.div_add_mod m base, ← Nat.div_add_mod n base, high, low]

end Numeral

namespace Quoted

/-- What a letter behind a backslash stands for. -/
def named? : Char → Option Char
  | '0' => some '\x00'
  | 't' => some '\t'
  | 'r' => some '\r'
  | 'n' => some '\n'
  | '"' => some '"'
  | '\\' => some '\\'
  | _ => none

/-- How a character is written: as it is, as a letter behind a backslash, or by its number. -/
inductive Spelled : Char → List Char → Prop where
  | plain {c : Char} (notQuote : c ≠ '"') (notBackslash : c ≠ '\\') (notBreak : c ≠ '\n') : Spelled c [c]
  | named {c letter : Char} (found : named? letter = some c) : Spelled c ['\\', letter]
  | number (c : Char) : Spelled c (byNumber c)

theorem escapeChar_spelled (c : Char) : Spelled c (escapeChar c) := by
  unfold escapeChar
  split
  · next null => exact .named (by rw [null]; rfl)
  split
  · next tab => exact .named (by rw [tab]; rfl)
  split
  · next carriage => exact .named (by rw [carriage]; rfl)
  split
  · next newline => exact .named (by rw [newline]; rfl)
  split
  · next quote => exact .named (by rw [quote]; rfl)
  split
  · next backslash => exact .named (by rw [backslash]; rfl)
  next notBreak notQuote notBackslash =>
    split
    · exact .number c
    split
    · exact .plain notQuote notBackslash notBreak
    · exact .number c

/-- The digits of a number hold none of these. -/
theorem notMem_hexDigits {mark : Char} (strange : ∀ digit, Nat.digitChar digit ≠ mark) (n : Nat) :
    mark ∉ Nat.toDigits 16 n := Numeral.notMem_toDigits (by decide) strange n

theorem byNumber_cons (c : Char) (more : List Char) :
    byNumber c ++ more = '\\' :: 'u' :: '\x7b' :: (Nat.toDigits 16 c.toNat ++ '\x7d' :: more) := by
  simp [byNumber]

/-- No character is written as another one is, or as the start of that. -/
theorem Spelled.unique {c d : Char} {a b x y : List Char} (first : Spelled c a) (second : Spelled d b)
    (same : a ++ x = b ++ y) : c = d ∧ x = y := by
  cases first with
  | plain _ notBackslash =>
    cases second with
    | plain => exact List.cons.inj same
    | named => exact absurd (List.cons.inj same).1 notBackslash
    | number =>
      rw [byNumber_cons] at same
      exact absurd (List.cons.inj same).1 notBackslash
  | named found =>
    cases second with
    | plain _ notBackslash => exact absurd (List.cons.inj same).1.symm notBackslash
    | named again =>
      obtain ⟨-, behind⟩ := List.cons.inj same
      obtain ⟨rfl, rest⟩ := List.cons.inj behind
      exact ⟨Option.some.inj (found.symm.trans again), rest⟩
    | number =>
      rw [byNumber_cons] at same
      obtain ⟨-, behind⟩ := List.cons.inj same
      obtain ⟨rfl, -⟩ := List.cons.inj behind
      simp [named?] at found
  | number =>
    rw [byNumber_cons] at same
    cases second with
    | plain _ notBackslash => exact absurd (List.cons.inj same).1.symm notBackslash
    | named again =>
      obtain ⟨-, behind⟩ := List.cons.inj same
      obtain ⟨rfl, -⟩ := List.cons.inj behind
      simp [named?] at again
    | number =>
      rw [byNumber_cons] at same
      simp only [List.cons.injEq, true_and] at same
      have ends (digit : Nat) : Nat.digitChar digit ≠ '\x7d' := Nat.digitChar_ne '\x7d' rfl
      obtain ⟨digits, rest⟩ := split_at_mark (notMem_hexDigits ends _) (notMem_hexDigits ends _) same
      exact ⟨Char.toNat_inj.mp (Numeral.toDigits_inj (by decide) (by decide) digits), rest⟩

theorem Spelled.ne_nil {c : Char} {a : List Char} (spelled : Spelled c a) : a ≠ [] := by
  cases spelled <;> simp [byNumber]

theorem escape_cons (c : Char) (text : List Char) : escape (c :: text) = escapeChar c ++ escape text := rfl

theorem escape_inj {a b : List Char} (same : escape a = escape b) : a = b := by
  induction a generalizing b with
  | nil =>
    cases b with
    | nil => rfl
    | cons d b =>
      have empty := (List.append_eq_nil_iff.mp same.symm).1
      exact absurd empty (escapeChar_spelled d).ne_nil
  | cons c a ih =>
    cases b with
    | nil =>
      have empty := (List.append_eq_nil_iff.mp same).1
      exact absurd empty (escapeChar_spelled c).ne_nil
    | cons d b =>
      obtain ⟨rfl, rest⟩ := (escapeChar_spelled c).unique (escapeChar_spelled d) same
      rw [ih rest]

theorem Spelled.break_notMem {c : Char} {a : List Char} (spelled : Spelled c a) : '\n' ∉ a := by
  cases spelled with
  | plain _ _ notBreak => simpa using notBreak.symm
  | @named letter found =>
    have other : '\n' ≠ letter := by
      rintro rfl
      simp [named?] at found
    simpa using other
  | number =>
    have digits := notMem_hexDigits (fun digit => Nat.digitChar_ne '\n' rfl) c.toNat
    simp [byNumber, digits]

/-- A quoted text stands on one line. -/
theorem break_notMem_encode (text : List Char) : '\n' ∉ encode text := by
  have inner : '\n' ∉ escape text := by
    rw [escape, List.mem_flatMap]
    rintro ⟨c, -, member⟩
    exact (escapeChar_spelled c).break_notMem member
  simp [encode, inner]

theorem Spelled.front_of_quote {c : Char} {a front behind : List Char} (spelled : Spelled c a)
    (split : a = front ++ '"' :: behind) : front = ['\\'] := by
  cases spelled with
  | plain notQuote =>
    rcases front with _ | ⟨first, front⟩
    · exact absurd (List.cons.inj split).1 notQuote
    · simp at split
  | named =>
    rcases front with _ | ⟨first, _ | ⟨second, front⟩⟩
    · simp at split
    · rw [(List.cons.inj split).1]
    · simp at split
  | number =>
    have quote : '"' ∈ byNumber c := split ▸ List.mem_append_right front List.mem_cons_self
    have digits := notMem_hexDigits (fun digit => Nat.digitChar_ne '"' rfl) c.toNat
    simp [byNumber, digits] at quote

/-- A quote inside of a quoted text stands behind a backslash. -/
theorem quote_behind_backslash {text front behind : List Char} (split : escape text = front ++ '"' :: behind) :
    ∃ before, front = before ++ ['\\'] := by
  induction text generalizing front with
  | nil => simp [escape] at split
  | cons c text ih =>
    rw [escape_cons, List.append_eq_append_iff] at split
    rcases split with ⟨more, rfl, later⟩ | ⟨more, own, rest⟩
    · obtain ⟨before, rfl⟩ := ih later
      exact ⟨escapeChar c ++ before, (List.append_assoc _ _ _).symm⟩
    · cases more with
      | nil =>
        obtain ⟨before, impossible⟩ : ∃ before, [] = before ++ ['\\'] := ih rest.symm
        simp at impossible
      | cons quote more =>
        obtain ⟨rfl, -⟩ := List.cons.inj rest
        exact ⟨[], (escapeChar_spelled c).front_of_quote own⟩

theorem encode_inj {a b : List Char} (same : encode a = encode b) : a = b := by
  have inner := (List.cons.inj same).2
  exact escape_inj (List.append_cancel_right inner)

/-- No quoted text ends in another one with a blank in front of it. -/
theorem encode_ne_blank_encode (text inner front : List Char) : encode text ≠ front ++ ' ' :: encode inner := by
  intro same
  cases front with
  | nil => simp [encode] at same
  | cons quote front =>
    have behind : escape text ++ ['"'] = ((front ++ [' ']) ++ '"' :: escape inner) ++ ['"'] := by
      simpa [encode] using (List.cons.inj same).2
    obtain ⟨before, blank⟩ := quote_behind_backslash (List.append_cancel_right behind)
    have last := (List.append_inj' blank rfl).2
    simp at last

/-- A word and a quoted text behind a blank can be told apart, whatever the word holds. -/
theorem word_encode_inj {word other text inner : List Char}
    (same : word ++ ' ' :: encode text = other ++ ' ' :: encode inner) : word = other ∧ text = inner := by
  rcases List.append_eq_append_iff.mp same with ⟨more, rfl, rest⟩ | ⟨more, rfl, rest⟩
  · cases more with
    | nil => exact ⟨(List.append_nil word).symm, encode_inj (List.cons.inj rest).2⟩
    | cons first more => exact absurd (List.cons.inj rest).2 (encode_ne_blank_encode _ _ _)
  · cases more with
    | nil => exact ⟨List.append_nil other, encode_inj (List.cons.inj rest).2.symm⟩
    | cons first more => exact absurd (List.cons.inj rest).2 (encode_ne_blank_encode _ _ _)

end Quoted
end Lexicon

import Lexicon.Json.Value

/-! Strings of a JSON text are read back as they were written, whatever follows them. -/
namespace Lexicon.Json
namespace Tape

/-- A reader takes a text off the tape and gives a value, whatever follows the text. -/
def Reads {α : Type} (reader : Reader α) (text : List Char) (x : α) : Prop :=
  ∀ (t : Tape) (more : List Char), t.rest = text ++ more → ∃ t', reader t = .ok (x, t') ∧ t'.rest = more

theorem next_rest {t : Tape} {c : Char} {more : List Char} (stands : t.rest = c :: more) : t.next.rest = more := by
  unfold next
  split
  · next ended => simp [ended] at stands
  · next broken => exact (List.cons.inj (broken.symm.trans stands)).2
  · next other => exact (List.cons.inj (other.symm.trans stands)).2

theorem skip_rest (count : Nat) (t : Tape) : (skip count t).rest = t.rest.drop count := by
  induction count generalizing t with
  | zero => rfl
  | succ count ih =>
    rw [skip, ih]
    cases rest : t.rest with
    | nil => simp [next, rest]
    | cons c more => rw [next_rest rest, List.drop_succ_cons]

/-- The steps that a reader takes from its opening character on are enough for what is written behind it. -/
theorem steps_enough {t : Tape} {c : Char} {text more : List Char} {count : Nat}
    (stands : t.rest = c :: (text ++ more)) (fits : count ≤ text.length) : count < t.rest.length + 1 := by
  rw [stands, List.length_cons, List.length_append]
  omega

/-- Blanks, tabs and ends of lines. -/
def isSpace (c : Char) : Bool := c == ' ' || c == '\n' || c == '\t' || c == '\r'

/-- There are no blanks to move past. -/
theorem skipSpace_of {t : Tape} {c : Char} {more : List Char} (stands : t.rest = c :: more)
    (solid : isSpace c = false) : t.skipSpace = t := by
  have none : (t.rest.takeWhile isSpace).length = 0 := by rw [stands, List.takeWhile_cons, solid]; rfl
  change skip (t.rest.takeWhile isSpace).length t = t
  rw [none, skip]

/-! What follows a backslash. -/

theorem escape_named {x c : Char} (named : escapeNamed? x = some c) : Reads escape [x] c := by
  intro t more stands
  rw [List.singleton_append] at stands
  refine ⟨t.next, ?_, next_rest stands⟩
  unfold escape
  split
  · next ended => simp [ended] at stands
  · next unicode =>
    obtain ⟨rfl, -⟩ := List.cons.inj (unicode.symm.trans stands)
    simp [escapeNamed?] at named
  · next y _ _ other =>
    obtain ⟨rfl, -⟩ := List.cons.inj (other.symm.trans stands)
    simp only [named]

theorem hexDigit?_digitChar : ∀ n < 16, hexDigit? (Nat.digitChar n) = some n := by decide

theorem hex4_read {a b d e : Char} {p q r s : Nat} (first : hexDigit? a = some p) (second : hexDigit? b = some q)
    (third : hexDigit? d = some r) (fourth : hexDigit? e = some s) :
    Reads hex4 [a, b, d, e] (((p * 16 + q) * 16 + r) * 16 + s) := by
  intro t more stands
  refine ⟨t.skip 4, ?_, by rw [skip_rest, stands]; rfl⟩
  have taken : t.rest.take 4 = [a, b, d, e] := by rw [stands]; rfl
  have long : ¬utf8Length [a, b, d, e] < 4 := by
    simp only [utf8Length]
    have := a.utf8Size_pos
    have := b.utf8Size_pos
    have := d.utf8Size_pos
    have := e.utf8Size_pos
    omega
  have digits : [a, b, d, e].mapM hexDigit? = some [p, q, r, s] := by
    simp [first, second, third, fourth]
  simp only [hex4, taken, long, if_false, digits]

/-- A control character by its number. -/
theorem escape_unicode {c : Char} (control : c.toNat < 0x20) :
    Reads escape ['u', '0', '0', Nat.digitChar (c.toNat / 16), Nat.digitChar (c.toNat % 16)] c := by
  intro t more stands
  have zero : hexDigit? '0' = some 0 := by decide
  have high := hexDigit?_digitChar (c.toNat / 16) (by omega)
  have low := hexDigit?_digitChar (c.toNat % 16) (by omega)
  obtain ⟨t', read, rest⟩ := hex4_read zero zero high low t.next more (next_rest stands)
  refine ⟨t', ?_, rest⟩
  have unit : ((0 * 16 + 0) * 16 + c.toNat / 16) * 16 + c.toNat % 16 = c.toNat := by omega
  rw [unit] at read
  unfold escape
  split
  · next ended => simp [ended] at stands
  · unfold unicodeEscape
    simp only [read]
    -- far below the surrogates, so that one code unit is the whole character
    rw [if_neg (by omega), if_pos (by omega), Char.ofNat_toNat]
  · next notUnicode other =>
    obtain ⟨rfl, -⟩ := List.cons.inj (other.symm.trans stands)
    exact absurd rfl notUnicode

/-- A character is written as it is, or as a backslash with something that stands for it. -/
theorem writeChar_cases (c : Char) :
    (writeChar c = [c] ∧ c ≠ '"' ∧ c ≠ '\\' ∧ ¬c.toNat < 0x20) ∨
      ∃ rest, writeChar c = '\\' :: rest ∧ Reads escape rest c := by
  unfold writeChar
  split
  · next quote => exact .inr ⟨['"'], rfl, escape_named (by rw [quote]; rfl)⟩
  · next notQuote =>
    split
    · next backslash => exact .inr ⟨['\\'], rfl, escape_named (by rw [backslash]; rfl)⟩
    · next notBackslash =>
      split
      · next backspace => exact .inr ⟨['b'], rfl, escape_named (by rw [backspace]; rfl)⟩
      split
      · next feed => exact .inr ⟨['f'], rfl, escape_named (by rw [feed]; rfl)⟩
      split
      · next newline => exact .inr ⟨['n'], rfl, escape_named (by rw [newline]; rfl)⟩
      split
      · next carriage => exact .inr ⟨['r'], rfl, escape_named (by rw [carriage]; rfl)⟩
      split
      · next tab => exact .inr ⟨['t'], rfl, escape_named (by rw [tab]; rfl)⟩
      split
      · next control => exact .inr ⟨_, rfl, escape_unicode control⟩
      · next plain => exact .inl ⟨rfl, notQuote, notBackslash, plain⟩

theorem length_le_written (cs : List Char) : cs.length ≤ (cs.flatMap writeChar).length := by
  induction cs with
  | nil => exact Nat.le_refl _
  | cons c cs ih =>
    rw [List.flatMap_cons, List.length_append, List.length_cons]
    have some : 1 ≤ (writeChar c).length := by
      rcases writeChar_cases c with ⟨same, -⟩ | ⟨rest, same, -⟩ <;> simp [same]
    omega

/-- The characters of a string, up to its closing quote. -/
theorem stringBody_read (cs : List Char) {steps : Nat} (enough : cs.length < steps) :
    Reads (stringBody steps) (cs.flatMap writeChar ++ ['"']) cs := by
  induction cs generalizing steps with
  | nil =>
    intro t more stands
    obtain ⟨steps, rfl⟩ := Nat.exists_eq_add_one.mpr enough
    refine ⟨t.next, ?_, next_rest stands⟩
    simp only [List.flatMap_nil, List.nil_append, List.singleton_append] at stands
    simp only [stringBody, stands]
  | cons c cs ih =>
    intro t more stands
    obtain ⟨steps, rfl⟩ := Nat.exists_eq_add_one.mpr (Nat.zero_lt_of_lt enough)
    have fewer : cs.length < steps := Nat.lt_of_succ_lt_succ enough
    rw [List.flatMap_cons, List.append_assoc, List.append_assoc] at stands
    rcases writeChar_cases c with ⟨plain, notQuote, notBackslash, printable⟩ | ⟨rest, escaped, read⟩
    · rw [plain, List.singleton_append, ← List.append_assoc] at stands
      obtain ⟨t', others, behind⟩ := ih fewer t.next more (next_rest stands)
      refine ⟨t', ?_, behind⟩
      unfold stringBody
      split
      · next ended => simp [ended] at stands
      · next quote => exact absurd (List.cons.inj (stands.symm.trans quote)).1 notQuote
      · next backslash => exact absurd (List.cons.inj (stands.symm.trans backslash)).1 notBackslash
      · next other =>
        obtain ⟨rfl, -⟩ := List.cons.inj (stands.symm.trans other)
        simp only [printable, if_false, others]
    · rw [escaped, List.cons_append] at stands
      obtain ⟨t1, character, between⟩ := read t.next _ (next_rest stands)
      rw [← List.append_assoc] at between
      obtain ⟨t', others, behind⟩ := ih fewer t1 more between
      refine ⟨t', ?_, behind⟩
      simp only [stringBody, stands, character, others]

theorem writeString_toList (text : String) :
    (writeString text).toList = '"' :: (text.toList.flatMap writeChar ++ ['"']) := by
  rw [writeString, String.toList_ofList, List.cons_append]

/-- A written string is read back. -/
theorem string_read (text : String) : Reads string (writeString text).toList text := by
  intro t more stands
  rw [writeString_toList, List.cons_append, List.append_assoc] at stands
  have enough := steps_enough stands (length_le_written text.toList)
  rw [← List.append_assoc] at stands
  obtain ⟨t', read, rest⟩ := stringBody_read text.toList enough t.next more (next_rest stands)
  exact ⟨t', by simp only [string, read, Except.map, String.ofList_toList], rest⟩

end Tape
end Lexicon.Json

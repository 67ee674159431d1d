import Lexicon.CommandLine
import Lexicon.Proofs.Text.Quoted

/-! A listing says which tokens were listed. The lines can be told apart since nothing but their ends breaks a line,
and the parts of a line since a quoted text does not end in another one. -/
namespace Lexicon
namespace Listed

/-- The token takes one line of a listing. Blanks, quotes and digits in its kind are no matter. -/
def OneLine (t : Listed) : Prop := '\n' ∉ t.kind.toList

instance (t : Listed) : Decidable t.OneLine := inferInstanceAs (Decidable ('\n' ∉ t.kind.toList))

/-- The line of a token without its end. -/
def body (t : Listed) : List Char :=
  Nat.toDigits 10 t.range.start ++ '.' :: '.' :: (Nat.toDigits 10 t.range.stop ++ ' ' ::
    (t.kind.toList ++ ' ' :: Quoted.encode t.text.toList))

theorem line_toList (t : Listed) : t.line.toList = t.body ++ ['\n'] := by
  simp [line, body, Span.text, quoted]

theorem lines_toList (t : Listed) (rest : List Listed) :
    (lines (t :: rest)).toList = t.body ++ '\n' :: (lines rest).toList := by
  rw [lines, List.map_cons, String.join_cons, String.toList_append, line_toList, List.append_assoc]
  rfl

theorem lines_cons_ne_nil (t : Listed) (rest : List Listed) : lines (t :: rest) ≠ lines [] := by
  intro same
  have empty := congrArg String.toList same
  rw [lines_toList] at empty
  simp [lines] at empty

variable {first second : Listed}

theorem body_inj (same : first.body = second.body) : first = second := by
  have dot (digit : Nat) : Nat.digitChar digit ≠ '.' := Nat.digitChar_ne '.' rfl
  have blank (digit : Nat) : Nat.digitChar digit ≠ ' ' := Nat.digitChar_ne ' ' rfl
  have number {mark : Char} (strange : ∀ digit, Nat.digitChar digit ≠ mark) (n : Nat) : mark ∉ Nat.toDigits 10 n :=
    Numeral.notMem_toDigits (by decide) strange n
  obtain ⟨start, behind⟩ := split_at_mark (number dot _) (number dot _) same
  obtain ⟨stop, rest⟩ := split_at_mark (number blank _) (number blank _) (List.cons.inj behind).2
  obtain ⟨kind, text⟩ := Quoted.word_encode_inj rest
  obtain ⟨⟨_, _⟩, _, _⟩ := first
  obtain ⟨⟨_, _⟩, _, _⟩ := second
  simp only [mk.injEq, Span.mk.injEq]
  exact ⟨⟨Numeral.toDigits_inj (by decide) (by decide) start, Numeral.toDigits_inj (by decide) (by decide) stop⟩,
    String.toList_inj.mp kind, String.toList_inj.mp text⟩

theorem OneLine.body (oneLine : first.OneLine) : '\n' ∉ first.body := by
  have digits (n : Nat) : '\n' ∉ Nat.toDigits 10 n :=
    Numeral.notMem_toDigits (by decide) (fun digit => Nat.digitChar_ne '\n' rfl) n
  have kind : '\n' ∉ first.kind.toList := oneLine
  simp [Listed.body, digits, kind, Quoted.break_notMem_encode]

theorem lines_inj {tokens others : List Listed} (own : ∀ t ∈ tokens, t.OneLine) (other : ∀ t ∈ others, t.OneLine)
    (same : lines tokens = lines others) : tokens = others := by
  induction tokens generalizing others with
  | nil =>
    cases others with
    | nil => rfl
    | cons t others => exact absurd same.symm (lines_cons_ne_nil t others)
  | cons t tokens ih =>
    cases others with
    | nil => exact absurd same (lines_cons_ne_nil t tokens)
    | cons u others =>
      obtain ⟨ownFirst, ownRest⟩ := List.forall_mem_cons.mp own
      obtain ⟨otherFirst, otherRest⟩ := List.forall_mem_cons.mp other
      have both := congrArg String.toList same
      rw [lines_toList, lines_toList] at both
      obtain ⟨line, rest⟩ := split_at_mark ownFirst.body otherFirst.body both
      rw [body_inj line, ih ownRest otherRest (String.toList_inj.mp rest)]

end Listed

namespace CommandLine

/-- What is listed of tokens tells which tokens they are, as long as no kind breaks a line: two listings that read
alike list equally many tokens, with the same ranges, kinds and texts. So do two runs of the command line that write
the same, whatever their rules and inputs are and whether or not an error stops them. -/
theorem listing_unambiguous [Regex.Engine] :
    (∀ tokens others : List Listed, (∀ t ∈ tokens, t.OneLine) → (∀ t ∈ others, t.OneLine) →
      Listed.lines tokens = Listed.lines others → tokens = others) ∧
    ∀ (read again : String → Except ReadError String) (arguments others : Arguments),
      let outcome := run (m := Id) read arguments
      let other := run (m := Id) again others
      (∀ t ∈ outcome.1, t.OneLine) → (∀ t ∈ other.1, t.OneLine) →
        (Report.ofOutcome outcome).output = (Report.ofOutcome other).output → outcome.1 = other.1 := by
  have written (outcome : Outcome) : (Report.ofOutcome outcome).output = Listed.lines outcome.1 := by
    obtain ⟨tokens, _ | e⟩ := outcome <;> rfl
  constructor
  · exact fun tokens others => Listed.lines_inj
  · intro read again arguments others outcome other own another same
    rw [written, written] at same
    exact Listed.lines_inj own another same

/-- A kind that ends in a quoted text, and a text that holds what looks like the end of one and the start of another. -/
theorem listing_unambiguous_quotes :
    Listed.lines [⟨⟨0, 12⟩, "word \"a\"", "b"⟩, ⟨⟨12, 13⟩, "", "\n"⟩] ≠
      Listed.lines [⟨⟨0, 12⟩, "word", "a\" \"b"⟩, ⟨⟨12, 13⟩, "", "\n"⟩] := by
  intro same
  have tokens := listing_unambiguous.1 _ _ (by decide) (by decide) same
  simp at tokens

end CommandLine
end Lexicon

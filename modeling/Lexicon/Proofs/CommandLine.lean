import Mathlib.Data.List.Forall2
import Lexicon.CommandLine
import Lexicon.Proofs.Lexer.Drivers

/-! What the command line writes is what the drivers of a lexer give: the lines of the tokens up to the end of the
input or the first error, and that error. -/
namespace Lexicon

/-- The line of a token that a lexer has stored: its range, its kind and its text between quotes. -/
def Lexer.Prints {σ ν : Type} (l : Lexer σ String ν) (token : String × TokenId) (line : String) : Prop :=
  ∃ range text, l.table.range? token.2 = some range ∧ l.text? token.2 = some text ∧
    line = toString range.start ++ ".." ++ toString range.stop ++ " " ++ token.1 ++ " " ++
      quoted (String.ofList text) ++ "\n"

theorem Lexer.Aligned.prints {σ ν : Type} {l : Lexer σ String ν} (aligned : l.Aligned) {token : String × TokenId}
    {e : Entry ν} (found : l.table.entry? token.2 = some e) : l.Prints token (l.listed token.1 token.2).line := by
  have range : l.table.range? token.2 = some e.range := by rw [ValueTable.range?, found, Option.map_some]
  have text := aligned.text_of_entry found
  refine ⟨_, _, range, text, ?_⟩
  simp only [Lexer.listed, range, text, Listed.line, Span.text, Option.getD_some]

namespace CommandLine

/-- The registry of the rules in the file that the arguments name. -/
def registryOf [Regex.Engine] (read : String → Except ReadError String) (arguments : Arguments) :
    Except RegistryError (Registry Unit String Empty) :=
  (RuleSet.ofRead arguments.rules (read arguments.rules)).bind RuleSet.toRegistry

variable {read : String → Except ReadError String} {arguments : Arguments}

theorem run_error [Regex.Engine] {e : RegistryError} (unmade : registryOf read arguments = .error e) :
    run (m := Id) read arguments = ([], some (.registry e)) := by
  rcases loaded : RuleSet.ofRead arguments.rules (read arguments.rules) with e' | rs
  · simp only [registryOf, loaded, Except.bind, Except.error.injEq] at unmade
    simp only [run, RuleSet.load, bind, pure, loaded, unmade]
  · simp only [registryOf, loaded, Except.bind] at unmade
    simp only [run, RuleSet.load, bind, pure, loaded, unmade]

theorem run_ok [Regex.Engine] {registry : Registry Unit String Empty}
    (made : registryOf read arguments = .ok registry) :
    run (m := Id) read arguments = listInput registry arguments.input (read arguments.input) := by
  rcases loaded : RuleSet.ofRead arguments.rules (read arguments.rules) with e' | rs
  · simp [registryOf, loaded, Except.bind] at made
  · simp only [registryOf, loaded, Except.bind] at made
    simp only [run, RuleSet.load, bind, pure, loaded, made]

/-- The input as a lexer lists it. -/
theorem listInput_pulls {registry : Registry Unit String Empty} {path text : String} {l' : Lexer Unit String Empty}
    {s' : Unit} {tokens : List (String × TokenId)} {stop : Option ScanError}
    (pulls : (Lexer.ofSource registry none text.toList).Pulls () tokens stop l' s') :
    listInput registry path (.ok text) = (tokens.map fun token => l'.listed token.1 token.2, stop.map .scan) := by
  simp only [listInput, pulls.listing]

/-- The drivers of a lexer agree. From any running lexer, whatever its hook and handlers keep in mind, `tokenize`
succeeds exactly if the stream gives no error. Its tokens are then those of the stream, each with the stretches that
the table stores for it, and otherwise it fails with the error that ends the stream; lexer and state are the same in
the end.

The command line writes the lines of the tokens that the stream gives before the end or the first error, succeeds
exactly if `tokenize` does and fails with the same error otherwise. If there is no registry or no input, nothing is
written. -/
theorem drivers_agree [Regex.Engine] {σ κ ν : Type} :
    (∀ (l : Lexer σ κ ν) (s : σ), l.status = .running →
      let items := (l.drain s).1
      let table := (l.drain s).2.1.table
      let result := (l.tokenize s).1
      ((∃ tokens, result = .ok tokens) ↔ ∀ e, .error e ∉ items) ∧
        (∀ tokens, result = .ok tokens → items = tokens.map (fun t => .ok (t.kind, t.id)) ∧
          ∀ t ∈ tokens, table.range? t.id = some t.range ∧ table.bytes? t.id = some t.bytes) ∧
        (∀ e, result = .error e ↔ items.getLast? = some (.error e)) ∧ (l.tokenize s).2 = (l.drain s).2) ∧
    ∀ (read : String → Except ReadError String) (arguments : Arguments),
      let outcome := run (m := Id) read arguments
      let written := (Report.ofOutcome outcome).output
      (∀ e, registryOf read arguments = .error e → outcome.2 = some (.registry e) ∧ written = "") ∧
        ∀ registry, registryOf read arguments = .ok registry →
          (∀ e, read arguments.input = .error e → outcome.2 = some (.unreadable arguments.input e) ∧ written = "") ∧
          ∀ text, read arguments.input = .ok text →
            let l : Lexer Unit String Empty := .ofSource registry none text.toList
            ∃ (tokens : List (String × TokenId)) (stop : Option ScanError) (lines : List String),
              (l.drain ()).1 = tokens.map .ok ++ stop.toList.map .error ∧
              List.Forall₂ (l.drain ()).2.1.Prints tokens lines ∧ written = String.join lines ∧
              outcome.2 = stop.map .scan ∧ (outcome.2 = none ↔ ∃ tokens, (l.tokenize ()).1 = .ok tokens) ∧
              ∀ e, outcome.2 = some (.scan e) ↔ (l.tokenize ()).1 = .error e := by
  constructor
  · intro l s running items table result
    obtain ⟨tokens, stop, last, s', pulls⟩ := l.exists_pulls s
    have drained : l.drain s = (tokens.map .ok ++ stop.toList.map .error, last, s') := pulls.drain running
    have taken : l.tokenize s = (stop.elim (.ok (tokens.map last.collected)) .error, last, s') := pulls.tokenize
    simp only [items, table, result, drained, taken]
    cases stop with
    | none =>
      refine ⟨by simp, ?_, ?_, trivial⟩
      · rintro collected ⟨⟩
        refine ⟨by simp [Lexer.collected], ?_⟩
        intro t member
        obtain ⟨token, given, rfl⟩ := List.mem_map.mp member
        exact pulls.collected_stored given
      · intro e
        refine ⟨fun failed => by simp at failed, fun ended => ?_⟩
        have member := List.mem_of_getLast? ended
        simp at member
    | some e =>
      refine ⟨by simp, ?_, ?_, trivial⟩
      · rintro collected ⟨⟩
      · intro f
        simp
  · intro read arguments outcome written
    refine ⟨fun e unmade => ?_, fun registry made => ⟨fun e unread => ?_, fun text loaded => ?_⟩⟩
    · have ran : outcome = _ := run_error unmade
      simp [written, ran, Report.ofOutcome, Listed.lines]
    · have ran : outcome = _ := run_ok made
      rw [unread] at ran
      simp [written, ran, listInput, Report.ofOutcome, Listed.lines]
    · intro l
      obtain ⟨tokens, stop, last, s', pulls⟩ := l.exists_pulls ()
      have ran : outcome = _ := run_ok made
      rw [loaded, listInput_pulls pulls] at ran
      have aligned : last.Aligned := Lexer.kept_aligned.pulls pulls (Lexer.aligned_ofSource registry none text.toList)
      refine ⟨tokens, stop, tokens.map fun token => (last.listed token.1 token.2).line, ?_, ?_, ?_, ?_, ?_, ?_⟩
      · rw [pulls.drain rfl]
      · rw [pulls.drain rfl, List.forall₂_map_right_iff, List.forall₂_same]
        intro token member
        obtain ⟨e, found⟩ := pulls.stored token member
        exact aligned.prints found
      · have output : written = (Report.ofOutcome outcome).output := rfl
        rw [output, ran]
        cases stop <;> simp [Report.ofOutcome, Listed.lines, Function.comp_def]
      · rw [ran]
      · rw [ran, pulls.tokenize]
        cases stop <;> simp
      · intro e
        rw [ran, pulls.tokenize]
        cases stop <;> simp

end CommandLine
end Lexicon

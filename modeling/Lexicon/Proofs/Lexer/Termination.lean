import Lexicon.Proofs.Lexer.Drivers

/-! Every scan ends. A round of its loop either ends it or consumes a character, so that there are no more rounds than
characters left and one. The same bound holds for all scans of a driver together, since a token is not empty. -/
namespace Lexicon.Lexer
variable {σ κ ν : Type}

/-- The loop of a scan comes to its end with so many rounds. Each round is one step. -/
inductive Loops : (rounds : Nat) → Lexer σ κ ν → σ → Outcome κ → Lexer σ κ ν → σ → Prop where
  | last {l l' : Lexer σ κ ν} {s s' : σ} {outcome : Outcome κ} (stepped : l.step s = (.done outcome, l', s')) :
      Loops 1 l s outcome l' s'
  | again {rounds : Nat} {l m l' : Lexer σ κ ν} {s t s' : σ} {outcome : Outcome κ}
      (stepped : l.step s = (.again, m, t)) (rest : Loops rounds m t outcome l' s') :
      Loops (rounds + 1) l s outcome l' s'

/-- A driver that calls for one token after another comes to its end: the tokens, the error that stops them if it is
not the end of the source, and how many rounds the loops of all calls have together. -/
inductive Drives : (rounds : Nat) → Lexer σ κ ν → σ → List (κ × TokenId) → Option ScanError → Lexer σ κ ν → σ →
    Prop where
  | endOfInput {rounds : Nat} {l m : Lexer σ κ ν} {s t : σ} (loops : Loops rounds l s (.ok none) m t) :
      Drives rounds l s [] none { m with status := .endOfInput } t
  | error {rounds : Nat} {l m : Lexer σ κ ν} {s t : σ} {e : ScanError} (loops : Loops rounds l s (.error e) m t) :
      Drives rounds l s [] (some e) { m with status := .failed } t
  | token {rounds more : Nat} {l m l' : Lexer σ κ ν} {s t s' : σ} {token : κ × TokenId}
      {tokens : List (κ × TokenId)} {stop : Option ScanError} (loops : Loops rounds l s (.ok (some token)) m t)
      (rest : Drives more { m with status := .running } t tokens stop l' s') :
      Drives (rounds + more) l s (token :: tokens) stop l' s'

theorem Loops.scan {rounds : Nat} {l l' : Lexer σ κ ν} {s s' : σ} {outcome : Outcome κ}
    (loops : Loops rounds l s outcome l' s') : l.scan s = (outcome, l', s') := by
  induction loops with
  | last stepped => exact scan_of_done stepped
  | again stepped _ ih => exact (scan_of_again stepped).trans ih

theorem Loops.nextToken {rounds : Nat} {l l' : Lexer σ κ ν} {s s' : σ} {outcome : Outcome κ}
    (loops : Loops rounds l s outcome l' s') :
    l.nextToken s = (outcome, { l' with status := Outcome.status outcome }, s') := by
  simp only [Lexer.nextToken, loops.scan]

/-- The rounds are paid for by the characters consumed, all of them if the scan gives a token and all but the last one
otherwise. -/
theorem exists_loops (l : Lexer σ κ ν) (s : σ) :
    ∃ rounds outcome l' s', Loops rounds l s outcome l' s' ∧ rounds ≤ l.remaining.length + 1 ∧
      ∀ token, outcome = .ok (some token) → rounds + l'.remaining.length ≤ l.remaining.length := by
  rcases stepped : l.step s with ⟨_ | outcome, m, t⟩
  · have shorter : m.remaining.length < l.remaining.length := step_again_shorter stepped
    obtain ⟨rounds, outcome, l', s', loops, bound, paid⟩ := exists_loops m t
    refine ⟨rounds + 1, outcome, l', s', .again stepped loops, by omega, ?_⟩
    intro token given
    have := paid token given
    omega
  · refine ⟨1, outcome, m, t, .last stepped, Nat.le_add_left 1 _, ?_⟩
    rintro token rfl
    have shorter : m.remaining.length < l.remaining.length := step_token_shorter stepped
    omega
termination_by l.cursor.rest.length
decreasing_by exact step_again_shorter stepped

theorem exists_drives (l : Lexer σ κ ν) (s : σ) :
    ∃ rounds tokens stop l' s', Drives rounds l s tokens stop l' s' ∧ rounds ≤ l.remaining.length + 1 ∧
      tokens.length ≤ l.remaining.length := by
  obtain ⟨rounds, outcome, m, t, loops, bound, paid⟩ := exists_loops l s
  rcases outcome with e | _ | token
  · exact ⟨rounds, [], some e, _, t, .error loops, bound, Nat.zero_le _⟩
  · exact ⟨rounds, [], none, _, t, .endOfInput loops, bound, Nat.zero_le _⟩
  · have shorter : m.remaining.length < l.remaining.length := scan_token_shorter loops.scan
    have left := paid token rfl
    obtain ⟨more, tokens, stop, l', s', drives, further, fewer⟩ := exists_drives { m with status := .running } t
    change more ≤ m.remaining.length + 1 at further
    change tokens.length ≤ m.remaining.length at fewer
    exact ⟨rounds + more, token :: tokens, stop, l', s', .token loops drives, by omega,
      Nat.lt_of_le_of_lt fewer shorter⟩
termination_by l.cursor.rest.length
decreasing_by exact shorter

theorem Drives.pulls {rounds : Nat} {l l' : Lexer σ κ ν} {s s' : σ} {tokens : List (κ × TokenId)}
    {stop : Option ScanError} (drives : Drives rounds l s tokens stop l' s') : Pulls l s tokens stop l' s' := by
  induction drives with
  | endOfInput loops => exact .endOfInput loops.nextToken
  | error loops => exact .error loops.nextToken
  | token loops _ ih => exact .token loops.nextToken ih

/-- Every scan ends, from any lexer on: whatever is registered, be it patterns that match the empty text or groups that
never take part, and whatever the handlers and the hook answer. The loop of one call has at most one round more than
there are characters left. So have the loops of all calls that `tokenize` or a drain of the stream makes, and both come
to an end: with at most one token for each character left, and then the end of the source or one error. -/
theorem scan_ends (l : Lexer σ κ ν) (s : σ) :
    (∃ rounds outcome last s', Loops rounds l s outcome last s' ∧ rounds ≤ l.remaining.length + 1 ∧
      l.nextToken s = (outcome, { last with status := Outcome.status outcome }, s')) ∧
      ∃ rounds tokens stop last s', Drives rounds l s tokens stop last s' ∧ rounds ≤ l.remaining.length + 1 ∧
        tokens.length ≤ l.remaining.length ∧
        l.tokenize s = (stop.elim (.ok (tokens.map last.collected)) .error, last, s') ∧
        (l.status = .running → l.drain s = (tokens.map .ok ++ stop.toList.map .error, last, s')) ∧
        (l.status ≠ .running → l.drain s = ([], l, s)) := by
  obtain ⟨rounds, outcome, last, s', loops, bound, -⟩ := exists_loops l s
  refine ⟨⟨rounds, outcome, last, s', loops, bound, loops.nextToken⟩, ?_⟩
  obtain ⟨rounds, tokens, stop, last, s', drives, bound, fewer⟩ := exists_drives l s
  refine ⟨rounds, tokens, stop, last, s', drives, bound, fewer, drives.pulls.tokenize, ?_, ?_⟩
  · intro running
    exact drives.pulls.drain running
  · intro idle
    exact drain_none (next?_idle idle s)

end Lexicon.Lexer

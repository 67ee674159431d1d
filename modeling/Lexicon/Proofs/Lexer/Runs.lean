import Lexicon.Proofs.Lexer.Steps

/-! Runs of a lexer: any number of calls of its two entry points, in any order, failing calls included. What
every step keeps holds behind every run. -/
namespace Lexicon.Lexer
variable {σ κ ν : Type}

/-- The entry points that scan. -/
inductive Call where
  | nextToken
  | next
  deriving DecidableEq, Repr

/-- What a call reports: the outcome of a scan, or an item of the stream. -/
inductive Report (κ : Type) where
  | scanned (outcome : Outcome κ)
  | given (item : Option (Except ScanError (κ × TokenId)))

/-- The error with which a call fails. -/
def Report.error? : Report κ → Option ScanError
  | .scanned (.error e) | .given (some (.error e)) => some e
  | _ => none

def call (l : Lexer σ κ ν) (s : σ) : Call → Report κ × Lexer σ κ ν × σ
  | .nextToken =>
    match l.nextToken s with
    | (outcome, l', s') => (.scanned outcome, l', s')
  | .next =>
    match l.next? s with
    | (item, l', s') => (.given item, l', s')

/-- The reports of the calls in order, and the lexer behind them. -/
def run (l : Lexer σ κ ν) (s : σ) : List Call → List (Report κ) × Lexer σ κ ν × σ
  | [] => ([], l, s)
  | c :: rest =>
    match l.call s c with
    | (report, l', s') =>
      match l'.run s' rest with
      | (reports, last, s'') => (report :: reports, last, s'')

/-- Both entry points fail as a scan fails. -/
theorem call_error {l l' : Lexer σ κ ν} {s s' : σ} {c : Call} {report : Report κ} {e : ScanError}
    (called : l.call s c = (report, l', s')) (failed : report.error? = some e) :
    l.nextToken s = (.error e, l', s') := by
  rcases scanned : l.nextToken s with ⟨outcome, last, t⟩
  cases c with
  | nextToken =>
    simp only [call, scanned, Prod.mk.injEq] at called
    obtain ⟨rfl, rfl, rfl⟩ := called
    rcases outcome with error | _
    · simpa [Report.error?] using failed
    · simp [Report.error?] at failed
  | next =>
    by_cases running : l.status = .running
    · rcases outcome with error | _ | token <;>
        simp only [call, next?, running, if_true, scanned, Prod.mk.injEq] at called <;>
        obtain ⟨rfl, rfl, rfl⟩ := called <;> simp [Report.error?] at failed ⊢
      exact failed
    · simp only [call, next?, running, if_false, Prod.mk.injEq] at called
      obtain ⟨rfl, -, -⟩ := called
      simp [Report.error?] at failed

/-- A property that passing over text, the end of a scan and a new status all keep. -/
structure Kept (P : Lexer σ κ ν → Prop) : Prop where
  passes {l l' : Lexer σ κ ν} {s s' : σ} : Passes l s l' s' → P l → P l'
  ends {l l' : Lexer σ κ ν} {s s' : σ} {outcome : Outcome κ} : Ends l s outcome l' s' → P l → P l'
  status {l : Lexer σ κ ν} {status : Status} : P l → P { l with status }

namespace Kept
variable {P : Lexer σ κ ν → Prop}

theorem passing (kept : Kept P) {l l' : Lexer σ κ ν} {s s' : σ} (passing : Passing l s l' s') (holds : P l) :
    P l' := by
  induction passing with
  | refl => exact holds
  | step first _ ih => exact ih (kept.passes first holds)

theorem nextToken (kept : Kept P) (l : Lexer σ κ ν) (s : σ) (holds : P l) : P (l.nextToken s).2.1 := by
  rcases scanned : l.scan s with ⟨outcome, l', s'⟩
  obtain ⟨m, t, passing, ends⟩ := scan_passing scanned
  simp only [Lexer.nextToken, scanned]
  exact kept.status (kept.ends ends (kept.passing passing holds))

theorem next? (kept : Kept P) (l : Lexer σ κ ν) (s : σ) (holds : P l) : P (l.next? s).2.1 := by
  have scanned := kept.nextToken l s holds
  unfold Lexer.next?
  split
  · split <;> simpa only [*] using scanned
  · exact holds

theorem call (kept : Kept P) (l : Lexer σ κ ν) (s : σ) (c : Call) (holds : P l) : P (l.call s c).2.1 := by
  cases c with
  | nextToken => exact kept.nextToken l s holds
  | next => exact kept.next? l s holds

theorem run (kept : Kept P) (calls : List Call) (l : Lexer σ κ ν) (s : σ) (holds : P l) :
    P (l.run s calls).2.1 := by
  induction calls generalizing l s with
  | nil => exact holds
  | cons c rest ih => exact ih (l.call s c).2.1 (l.call s c).2.2 (kept.call l s c holds)

end Kept
end Lexicon.Lexer

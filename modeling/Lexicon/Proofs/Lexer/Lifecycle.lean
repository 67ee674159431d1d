import Lexicon.Proofs.Lexer.Failure

/-! The status over the life of a lexer, under any mix of its entry points with looks at it. The status tells how the
last scan went; the end of the source is final, and an error is final for the stream alone. -/
namespace Lexicon.Lexer
variable {σ κ ν : Type}

/-- What is done with a lexer: it is called to scan, a pattern is tried at the cursor, or an accessor views it. -/
inductive Use (σ κ ν : Type) : Type 1 where
  | call (c : Call)
  | peek (lookahead : Lookahead)
  | view {α : Type} (accessor : Lexer σ κ ν → α)

/-- What a use gives. -/
inductive Answer (κ : Type) : Type 1 where
  | report (report : Report κ)
  | matched (found : Bool)
  | viewed {α : Type} (value : α)

def use (l : Lexer σ κ ν) (s : σ) : Use σ κ ν → Answer κ × Lexer σ κ ν × σ
  | .call c =>
    match l.call s c with
    | (report, l', s') => (.report report, l', s')
  | .peek lookahead => (.matched (l.peek lookahead), l, s)
  | .view accessor => (.viewed (accessor l), l, s)

/-- The answers to the uses in order, and the lexer behind them. -/
def uses (l : Lexer σ κ ν) (s : σ) : List (Use σ κ ν) → List (Answer κ) × Lexer σ κ ν × σ
  | [] => ([], l, s)
  | u :: rest =>
    match l.use s u with
    | (answer, l', s') =>
      match l'.uses s' rest with
      | (answers, last, s'') => (answer :: answers, last, s'')

/-- What a report says of the scan behind it. -/
def Report.outcome : Report κ → Outcome κ
  | .scanned outcome => outcome
  | .given none => .ok none
  | .given (some (.ok token)) => .ok (some token)
  | .given (some (.error e)) => .error e

/-- What the scan of a use returns, if the use makes one: `nextToken` always scans, the stream while the lexer is
running. -/
def scanOf? (l : Lexer σ κ ν) (s : σ) : Use σ κ ν → Option (Outcome κ)
  | .call c => if c = .nextToken ∨ l.status = .running then some (l.call s c).1.outcome else none
  | .peek _ | .view _ => none

/-- What the last scan among the uses returns. -/
def lastScan? (l : Lexer σ κ ν) (s : σ) : List (Use σ κ ν) → Option (Outcome κ)
  | [] => none
  | u :: rest => ((l.use s u).2.1.lastScan? (l.use s u).2.2 rest).or (l.scanOf? s u)

/-- What every step keeps, every use keeps. -/
theorem Kept.uses {P : Lexer σ κ ν → Prop} (kept : Kept P) (us : List (Use σ κ ν)) (l : Lexer σ κ ν) (s : σ)
    (holds : P l) : P (l.uses s us).2.1 := by
  induction us generalizing l s with
  | nil => exact holds
  | cons u rest ih =>
    refine ih _ _ ?_
    cases u with
    | call c => exact kept.call l s c holds
    | peek | view => exact holds

theorem Outcome.status_running {outcome : Outcome κ} :
    Outcome.status outcome = .running ↔ ∃ token, outcome = .ok (some token) := by
  rcases outcome with e | _ | token <;> simp [Outcome.status]

theorem Outcome.status_endOfInput {outcome : Outcome κ} :
    Outcome.status outcome = .endOfInput ↔ outcome = .ok none := by
  rcases outcome with e | _ | token <;> simp [Outcome.status]

theorem Outcome.status_failed {outcome : Outcome κ} :
    Outcome.status outcome = .failed ↔ ∃ e, outcome = .error e := by
  rcases outcome with e | _ | token <;> simp [Outcome.status]

/-- While the lexer is running, the stream gives what a scan reports. -/
theorem next?_running {l : Lexer σ κ ν} (running : l.status = .running) (s : σ) :
    Report.outcome (.given (l.next? s).1) = (l.nextToken s).1 ∧ (l.next? s).2 = (l.nextToken s).2 := by
  rcases scanned : l.nextToken s with ⟨e | _ | token, l', s'⟩ <;>
    simp [next?, running, scanned, Report.outcome]

/-- Otherwise the stream gives nothing and leaves everything as it is. -/
theorem next?_idle {l : Lexer σ κ ν} (idle : l.status ≠ .running) (s : σ) : l.next? s = (none, l, s) := if_neg idle

theorem nextToken_status (l : Lexer σ κ ν) (s : σ) :
    (l.nextToken s).2.1.status = Outcome.status (l.nextToken s).1 := rfl

theorem use_status (l : Lexer σ κ ν) (s : σ) (u : Use σ κ ν) :
    (l.use s u).2.1.status = ((l.scanOf? s u).map Outcome.status).getD l.status := by
  cases u with
  | peek | view => rfl
  | call c =>
    cases c with
    | nextToken => exact nextToken_status l s
    | next =>
      by_cases running : l.status = .running
      · obtain ⟨outcome, behind⟩ := next?_running running s
        simp only [scanOf?, running, or_true, if_true, Option.map_some, Option.getD_some]
        change (l.next? s).2.1.status = Outcome.status (Report.outcome (.given (l.next? s).1))
        rw [outcome, behind, nextToken_status]
      · simp only [scanOf?, running, reduceCtorEq, or_self, if_false, Option.map_none, Option.getD_none]
        change (l.next? s).2.1.status = l.status
        rw [next?_idle running]

/-- The status is that of the last scan, or the one before all uses. -/
theorem uses_status (l : Lexer σ κ ν) (s : σ) (us : List (Use σ κ ν)) :
    (l.uses s us).2.1.status = ((l.lastScan? s us).map Outcome.status).getD l.status := by
  induction us generalizing l s with
  | nil => rfl
  | cons u rest ih =>
    have further := ih (l.use s u).2.1 (l.use s u).2.2
    change ((l.use s u).2.1.uses (l.use s u).2.2 rest).2.1.status = _
    rw [further, use_status, lastScan?]
    cases (l.use s u).2.1.lastScan? (l.use s u).2.2 rest <;> rfl

/-- The status tells where the cursor is. -/
structure Placed (l : Lexer σ κ ν) : Prop where
  endOfInput : l.status = .endOfInput → l.remaining = []
  failed : l.status = .failed → l.remaining ≠ []

theorem placed_ofSource (registry : Registry σ κ ν) (hook : Option (Hook σ)) (source : List Char) :
    (ofSource registry hook source).Placed where
  endOfInput := fun ended => by simp [ofSource] at ended
  failed := fun failed => by simp [ofSource] at failed

theorem placed_nextToken (l : Lexer σ κ ν) (s : σ) : (l.nextToken s).2.1.Placed := by
  rcases scanned : l.scan s with ⟨outcome, l', s'⟩
  obtain ⟨m, t, -, ends⟩ := scan_passing scanned
  simp only [nextToken, scanned]
  cases ends with
  | endOfInput consumed => exact ⟨fun _ => consumed, fun failed => by simp [Outcome.status] at failed⟩
  | error left fails =>
    obtain ⟨hit, found⟩ := fails.hit
    exact ⟨fun ended => by simp [Outcome.status] at ended, fun _ => hit?_remaining found ▸ left⟩
  | token =>
    exact ⟨fun ended => by simp [Outcome.status] at ended, fun failed => by simp [Outcome.status] at failed⟩

theorem Placed.use {l : Lexer σ κ ν} (placed : l.Placed) (s : σ) (u : Use σ κ ν) : (l.use s u).2.1.Placed := by
  cases u with
  | peek | view => exact placed
  | call c =>
    cases c with
    | nextToken => exact placed_nextToken l s
    | next =>
      change (l.next? s).2.1.Placed
      by_cases running : l.status = .running
      · rw [(next?_running running s).2]
        exact placed_nextToken l s
      · rw [next?_idle running]
        exact placed

theorem Placed.uses {l : Lexer σ κ ν} (placed : l.Placed) (s : σ) (us : List (Use σ κ ν)) :
    (l.uses s us).2.1.Placed := by
  induction us generalizing l s with
  | nil => exact placed
  | cons u rest ih => exact ih (placed.use s u) _

/-- At the end of the source a scan reports the end and leaves everything as it is. -/
theorem nextToken_ended {l : Lexer σ κ ν} (ended : l.status = .endOfInput) (consumed : l.remaining = []) (s : σ) :
    l.nextToken s = (.ok none, l, s) := by
  have step : l.step s = (.done (.ok none), l, s) := by
    unfold Lexer.step
    split
    · rfl
    · next rest => simp [remaining, rest] at consumed
  simp only [nextToken, scan_of_done step, Outcome.status, ← ended]

theorem use_ended {l : Lexer σ κ ν} (ended : l.status = .endOfInput) (consumed : l.remaining = []) (s : σ)
    (u : Use σ κ ν) :
    (l.use s u).2 = (l, s) ∧ ∀ report, (l.use s u).1 = .report report → report.outcome = .ok none := by
  cases u with
  | peek | view => exact ⟨rfl, fun report same => by simp [Lexer.use] at same⟩
  | call c =>
    cases c with
    | nextToken =>
      simp only [Lexer.use, call, nextToken_ended ended consumed, true_and]
      rintro report ⟨⟩
      rfl
    | next =>
      simp only [Lexer.use, call, next?_idle (l := l) (by simp [ended]), true_and]
      rintro report ⟨⟩
      rfl

/-- Nothing changes any more behind the end of the source. -/
theorem uses_ended {l : Lexer σ κ ν} (ended : l.status = .endOfInput) (consumed : l.remaining = []) (s : σ)
    (us : List (Use σ κ ν)) :
    (l.uses s us).2 = (l, s) ∧ ∀ report, .report report ∈ (l.uses s us).1 → report.outcome = .ok none := by
  induction us with
  | nil => exact ⟨rfl, fun report member => by simp [Lexer.uses] at member⟩
  | cons u rest ih =>
    obtain ⟨same, nothing⟩ := use_ended ended consumed s u
    have behind : (l.use s u).2.1.uses (l.use s u).2.2 rest = l.uses s rest := by rw [same]
    constructor
    · change ((l.use s u).2.1.uses (l.use s u).2.2 rest).2 = (l, s)
      rw [behind, ih.1]
    · intro report member
      change .report report ∈ (l.use s u).1 :: ((l.use s u).2.1.uses (l.use s u).2.2 rest).1 at member
      rw [behind, List.mem_cons] at member
      rcases member with first | later
      · exact nothing report first.symm
      · exact ih.2 report later

/-- Once it is not running, the stream alone gives nothing any more. -/
theorem run_next_idle {l : Lexer σ κ ν} (idle : l.status ≠ .running) (s : σ) (n : Nat) :
    ∀ report ∈ (l.run s (List.replicate n .next)).1, report = .given none := by
  induction n with
  | zero => simp [run]
  | succ n ih =>
    simp only [List.replicate_succ, run, call, next?_idle idle, List.forall_mem_cons, true_and]
    exact ih

/-- Behind the first item that is no token, the stream alone gives nothing. -/
theorem run_next_fused (l : Lexer σ κ ν) (s : σ) (n : Nat) :
    (l.run s (List.replicate n .next)).1.Pairwise fun earlier later =>
      (∀ token, earlier ≠ .given (some (.ok token))) → later = .given none := by
  induction n generalizing l s with
  | zero => exact .nil
  | succ n ih =>
    refine List.pairwise_cons.mpr ⟨fun later member silent => ?_, ih _ _⟩
    refine run_next_idle (l := (l.next? s).2.1) (fun running => ?_) _ n later member
    by_cases started : l.status = .running
    · obtain ⟨outcome, behind⟩ := next?_running started s
      rw [behind, nextToken_status, ← outcome] at running
      obtain ⟨token, given⟩ := Outcome.status_running.mp running
      apply silent token
      change Report.given (l.next? s).1 = _
      rcases item : (l.next? s).1 with _ | e | found <;> simp [item, Report.outcome] at given
      rw [given]
    · rw [next?_idle started] at running
      exact started running

/-- The life of a lexer, whatever is done with it and in whatever order. It is running until the first scan and behind
a scan that gave a token, at the end of input behind a scan that gave none, and failed behind a scan with an error.
The end of input is the end of the source and stays: whichever hook and handlers are in place, no use changes anything
or gives a token, and none of them is asked, since the state that they share stays too. A failed lexer is before the
end of the source. The stream of a lexer that is not running gives nothing, changes nothing and asks nobody, so that on
its own it gives nothing behind the first item that is no token; and only `nextToken` leads out of failure. -/
theorem lifecycle (registry : Registry σ κ ν) (hook : Option (Hook σ)) (source : List Char) (us : List (Use σ κ ν))
    (s : σ) :
    let fresh := ofSource registry hook source
    let l := (fresh.uses s us).2.1
    let last := fresh.lastScan? s us
    ((l.status = .running ↔ last = none ∨ ∃ token, last = some (.ok (some token))) ∧
      (l.status = .endOfInput ↔ last = some (.ok none)) ∧ (l.status = .failed ↔ ∃ e, last = some (.error e))) ∧
      (l.status = .endOfInput → l.position = source.length ∧ l.bytePosition = utf8Length source ∧
        ∀ (τ : Type) (hook : Option (Hook τ)) (registry : Registry τ κ ν) (t : τ) (more : List (Use τ κ ν)),
          let m : Lexer τ κ ν := { l with hook, registry }
          (m.uses t more).2 = (m, t) ∧ ∀ report, .report report ∈ (m.uses t more).1 → report.outcome = .ok none) ∧
      (l.status = .failed → l.position < source.length ∧ l.bytePosition < utf8Length source) ∧
      (l.status ≠ .running → ∀ (τ : Type) (hook : Option (Hook τ)) (registry : Registry τ κ ν) (t : τ),
        let m : Lexer τ κ ν := { l with hook, registry }
        m.next? t = (none, m, t)) ∧
      (∀ t n, (l.run t (List.replicate n .next)).1.Pairwise fun earlier later =>
        (∀ token, earlier ≠ .given (some (.ok token))) → later = .given none) ∧
      (l.status = .failed → ∀ t u, (l.use t u).2.1.status ≠ .failed → u = .call .nextToken) := by
  intro fresh l last
  have status : l.status = (last.map Outcome.status).getD .running := uses_status fresh s us
  have placed : l.Placed := (placed_ofSource registry hook source).uses s us
  have covered : l.Covered := kept_covered.uses us _ s (covered_ofSource registry hook source)
  have same : l.source = source := (kept_source source).uses us _ s rfl
  have within := same ▸ covered.within
  have rest := same ▸ covered.rest
  have bytes := same ▸ covered.bytes
  refine ⟨?_, fun ended => ?_, fun failed => ?_, fun idle τ hook registry t => ?_, fun t n => run_next_fused l t n,
    fun failed t u changed => ?_⟩
  · rw [status]
    cases last with
    | none => simp
    | some outcome =>
      simp [Outcome.status_running, Outcome.status_endOfInput, Outcome.status_failed]
  · have consumed := placed.endOfInput ended
    have position : l.position = source.length :=
      Nat.le_antisymm within (List.drop_eq_nil_iff.mp (rest.symm.trans consumed))
    refine ⟨position, by rw [bytes, position, List.take_length], fun τ hook registry t more => ?_⟩
    exact uses_ended (l := { l with hook, registry }) ended consumed t more
  · have left := placed.failed failed
    have before : l.position < source.length :=
      Nat.lt_of_not_le fun behind => left (rest.trans (List.drop_eq_nil_of_le behind))
    refine ⟨before, ?_⟩
    have shorter := utf8Length_take_lt before (Nat.le_refl source.length)
    rwa [List.take_length, ← bytes] at shorter
  · exact next?_idle (l := { l with hook, registry }) idle t
  · cases u with
    | peek | view => exact absurd failed changed
    | call c =>
      cases c with
      | nextToken => rfl
      | next =>
        have idle : l.next? t = (none, l, t) := next?_idle (by simp [failed]) t
        simp only [use, call, idle] at changed
        exact absurd failed changed

end Lexicon.Lexer

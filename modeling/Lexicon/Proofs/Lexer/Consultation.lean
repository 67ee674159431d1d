import Lexicon.Proofs.Lexer.Lifecycle
import Lexicon.Proofs.Lexer.Verdict

/-! The calls of the hook over a run. A hook that puts its calls on a list makes them visible and changes nothing else.
The list shows that the hook is asked where nothing fires and nowhere else, and that its answers are obeyed. -/
namespace Lexicon
variable {σ τ κ ν : Type}

/-- A call of the hook: what it was told, and what it answered. -/
structure Consultation where
  told : Unmatched
  answer : Recovery
  deriving DecidableEq, Repr

/-- The hook, with its calls on a list in the state, in order. -/
def Hook.recording (hook : Hook σ) : Hook (σ × List Consultation) :=
  fun u (s, asked) => ((hook u s).1, (hook u s).2, asked ++ [⟨u, (hook u s).1⟩])

/-! Definitions beside a part of the state that they neither read nor change. -/

def Handler.beside (handler : Handler σ κ ν) : Handler (σ × τ) κ ν :=
  fun text table (s, t) => ((handler text table s).1, (handler text table s).2, t)

def Role.beside : Role σ κ ν → Role (σ × τ) κ ν
  | token kind => .token kind
  | dispatch handler => .dispatch (Handler.beside handler)
  | skip => .skip

def Definition.beside (d : Definition σ κ ν) : Definition (σ × τ) κ ν := ⟨d.pattern, d.role.beside⟩

def Hit.beside (hit : Hit σ κ ν) : Hit (σ × τ) κ ν := ⟨hit.index, hit.definition.beside, hit.length⟩

def Registry.beside (r : Registry σ κ ν) : Registry (σ × τ) κ ν :=
  ⟨r.slots.map fun slot => ⟨slot.group, slot.definition.beside⟩, r.matcher⟩

namespace Registry

theorem firing_beside (locations : Regex.Locations) (length index : Nat) (slots : List (Slot σ κ ν)) :
    firing locations length index (slots.map fun slot => ⟨slot.group, slot.definition.beside⟩) =
      (firing locations length index slots).map (Hit.beside (τ := τ)) := by
  induction slots generalizing index with
  | nil => rfl
  | cons slot rest ih =>
    rw [List.map_cons, firing, firing, ih]
    split <;> rfl

theorem matchStart_beside (r : Registry σ κ ν) (locations : Regex.Locations) (rest : List Char) :
    (r.beside (τ := τ)).matchStart locations rest =
      ((r.matchStart locations rest).1.map Hit.beside, (r.matchStart locations rest).2) := by
  have matcher : (r.beside (τ := τ)).matcher = r.matcher := rfl
  unfold matchStart
  rw [matcher]
  split
  · rfl
  · exact congrArg (·, _) (firing_beside _ _ _ _)

end Registry

namespace Lexer

/-- The lexer with a hook that puts its calls on a list. -/
def recording (l : Lexer σ κ ν) : Lexer (σ × List Consultation) κ ν where
  registry := l.registry.beside
  source := l.source
  cursor := l.cursor
  locations := l.locations
  table := l.table
  status := l.status
  hook := l.hook.map Hook.recording
  journal := l.journal

@[simp] theorem recording_cursor (l : Lexer σ κ ν) : l.recording.cursor = l.cursor := rfl

@[simp] theorem recording_table (l : Lexer σ κ ν) : l.recording.table = l.table := rfl

@[simp] theorem recording_status (l : Lexer σ κ ν) : l.recording.status = l.status := rfl

@[simp] theorem recording_hook (l : Lexer σ κ ν) : l.recording.hook = l.hook.map Hook.recording := rfl

/-- The same result, with a list of the calls. -/
def recorded {α : Type} (result : α × Lexer σ κ ν × σ) (asked : List Consultation) :
    α × Lexer (σ × List Consultation) κ ν × (σ × List Consultation) :=
  (result.1, result.2.1.recording, result.2.2, asked)

/-- The call of the hook that a step makes, if it makes one. -/
def asks (l : Lexer σ κ ν) (s : σ) : List Consultation :=
  if l.remaining = [] ∨ l.hit?.1.isSome then []
  else (l.hook.map fun hook => ⟨l.unmatched, (hook l.unmatched s).1⟩).toList

theorem hit?_recording (l : Lexer σ κ ν) :
    l.recording.hit? = (l.hit?.1.map Hit.beside, l.hit?.2.recording) := by
  have matched := l.registry.matchStart_beside (τ := List Consultation) l.locations l.cursor.rest
  have kept (hit : Option (Hit σ κ ν)) : (hit.map (Hit.beside (τ := List Consultation))).filter (0 < ·.length) =
      (hit.filter (0 < ·.length)).map Hit.beside := by
    cases hit with
    | none => rfl
    | some hit =>
      by_cases positive : 0 < hit.length
      · simp [Hit.beside, Option.filter, positive]
      · simp [Hit.beside, Option.filter, positive]
  simp only [hit?, recording, matched, kept]

theorem emit_recording (l : Lexer σ κ ν) (count : Nat) (kind : κ) (value : Value ν) :
    l.recording.emit count kind value = ((l.emit count kind value).1, (l.emit count kind value).2.recording) := by
  rcases known : dangling? l.table value with _ | target
  · rcases stored : l.table.append value (l.cursor.range count) (l.cursor.bytes count) with refusal | ⟨id, table⟩
    · simp only [emit, recording_cursor, recording_table, known, stored]
      rfl
    · simp only [emit, recording_cursor, recording_table, known, stored]
      rfl
  · simp only [emit, recording_cursor, recording_table, known]

theorem perform_recording (l : Lexer σ κ ν) (count : Nat) (s : σ) (asked : List Consultation)
    (role : Role σ κ ν) :
    l.recording.perform count (s, asked) role.beside = recorded (l.perform count s role) asked := by
  have lexeme : l.recording.lexeme count = l.lexeme count := rfl
  cases role with
  | skip => rfl
  | token kind => simp only [Role.beside, perform, emit_recording, lexeme, recorded]
  | dispatch handler =>
    rcases answer : handler (l.lexeme count) l.table s with ⟨failure | ⟨kind, value⟩, s'⟩
    · simp only [Role.beside, perform, Handler.beside, lexeme, recording_table, answer, recorded, recording_cursor]
    · simp only [Role.beside, perform, Handler.beside, lexeme, recording_table, answer, emit_recording, recorded]

theorem recover_recording (l : Lexer σ κ ν) (s : σ) (asked : List Consultation) :
    l.recording.recover (s, asked) = recorded (l.recover s)
      (asked ++ (l.hook.map fun hook => ⟨l.unmatched, (hook l.unmatched s).1⟩).toList) := by
  rcases hooked : l.hook with _ | hook
  · simp only [recover, recording_hook, hooked, Option.map_none, Option.toList_none, List.append_nil]
    rfl
  · have told : l.recording.unmatched = l.unmatched := rfl
    rcases answer : hook l.unmatched s with ⟨_ | count, s'⟩
    · simp only [recover, recording_hook, hooked, Option.map_some, told, Hook.recording, answer]
      rfl
    · simp only [recover, recording_hook, hooked, Option.map_some, told, Hook.recording, answer]
      rfl

theorem asks_ended {l : Lexer σ κ ν} (ended : l.remaining = []) (s : σ) : l.asks s = [] :=
  if_pos (.inl ended)

theorem asks_found {l m : Lexer σ κ ν} {hit : Hit σ κ ν} (found : l.hit? = (some hit, m)) (s : σ) :
    l.asks s = [] :=
  if_pos (.inr (by rw [found, Option.isSome_some]))

theorem asks_missing {l m : Lexer σ κ ν} (left : l.remaining ≠ []) (missing : l.hit? = (none, m)) (s : σ) :
    l.asks s = (l.hook.map fun hook => ⟨l.unmatched, (hook l.unmatched s).1⟩).toList := by
  refine if_neg ?_
  rintro (ended | found)
  · exact left ended
  · simp [missing] at found

/-- A step with the list of calls is the same step, and puts the call that it makes on the list. -/
theorem step_recording (l : Lexer σ κ ν) (s : σ) (asked : List Consultation) :
    l.recording.step (s, asked) = recorded (l.step s) (asked ++ l.asks s) := by
  by_cases left : l.remaining = []
  · rw [asks_ended left, List.append_nil]
    have ended : l.cursor.rest = [] := left
    simp only [step, recording_cursor, ended]
    rfl
  · have ahead := l.hit?_recording
    rcases outcome : l.hit? with ⟨_ | hit, m⟩
    · rw [outcome] at ahead
      obtain ⟨locations, rfl⟩ := hit?_eq outcome
      rw [step_missing (l := l.recording) left _ ahead, step_missing left s outcome, recover_recording,
        asks_missing left outcome]
      rfl
    · rw [outcome] at ahead
      rw [step_found (l := l.recording) left _ ahead, step_found left s outcome, asks_found outcome, List.append_nil]
      exact perform_recording m hit.length s asked hit.definition.role

/-- The cursor behind what is given up: so many characters, but at least one and not more than there are. -/
def givenUp (c : Cursor) (count : Nat) : Cursor :=
  let passed := min (max count 1) c.rest.length
  ⟨c.rest.drop passed, c.position + passed, c.bytePosition + utf8Length (c.rest.take passed)⟩

/-- What one scan does about the hook, from a cursor on. Where nothing fires the hook is told the position and all that
remains. If it answers to skip, the scan goes on behind that many characters with the table as it is; if it answers to
fail, the scan fails there. Otherwise it is not asked. -/
inductive Conduct (r : Registry σ κ ν) (table : ValueTable ν) :
    Cursor → List Consultation → Outcome κ → Cursor → ValueTable ν → Prop where
  | endOfInput {c : Cursor} (consumed : c.rest = []) : Conduct r table c [] (.ok none) c table
  | refused {c : Cursor} (left : c.rest ≠ []) (missing : ∀ hit, ¬r.Fires c hit) :
      Conduct r table c [⟨⟨c.position, c.rest⟩, .fail⟩] (.error (.unmatched c.position (String.ofList c.rest))) c table
  | error {c : Cursor} {hit : Hit σ κ ν} {e : ScanError} (fires : r.Fires c hit)
      (matched : ∀ position remaining, e ≠ .unmatched position remaining) : Conduct r table c [] (.error e) c table
  | token {c : Cursor} {hit : Hit σ κ ν} {token : κ × TokenId} {entry : Entry ν} (fires : r.Fires c hit) :
      Conduct r table c [] (.ok (some token)) (c.advance hit.length) ⟨table.entries.push entry⟩
  | skip {c c' : Cursor} {hit : Hit σ κ ν} {asked : List Consultation} {outcome : Outcome κ} {table' : ValueTable ν}
      (fires : r.Fires c hit) (skips : hit.definition.role = .skip)
      (rest : Conduct r table (c.advance hit.length) asked outcome c' table') :
      Conduct r table c asked outcome c' table'
  | giveUp {c c' : Cursor} {count : Nat} {asked : List Consultation} {outcome : Outcome κ} {table' : ValueTable ν}
      (left : c.rest ≠ []) (missing : ∀ hit, ¬r.Fires c hit)
      (rest : Conduct r table (givenUp c count) asked outcome c' table') :
      Conduct r table c (⟨⟨c.position, c.rest⟩, .skip count⟩ :: asked) outcome c' table'

theorem skipUnmatched_cursor (l : Lexer σ κ ν) (count : Nat) :
    (l.skipUnmatched count).cursor = givenUp l.cursor count := by
  have passed : l.cursor.rest.take (max count 1) = l.cursor.rest.take (min (max count 1) l.cursor.rest.length) :=
    List.take_eq_take_min
  have behind : l.cursor.rest.drop (max count 1) = l.cursor.rest.drop (min (max count 1) l.cursor.rest.length) :=
    List.drop_eq_drop_iff.mpr (by omega)
  simp only [skipUnmatched, advance, Cursor.advance, givenUp, behind, passed, List.length_take, Nat.min_assoc,
    Nat.min_self]

/-- How a scan that stops at the cursor deals with the hook. -/
theorem Ends.conduct {l l' : Lexer σ κ ν} {s s' : σ} {outcome : Outcome κ} {hook : Hook σ}
    (ends : Ends l s outcome l' s') (hooked : l.hook = some hook) :
    Conduct l.registry l.table l.cursor (l.asks s) outcome l'.cursor l'.table := by
  cases ends with
  | endOfInput consumed =>
    rw [asks_ended consumed]
    exact .endOfInput consumed
  | error left fails =>
    obtain ⟨hit, tried⟩ := fails.hit
    obtain ⟨locations, rfl⟩ := hit?_eq tried
    cases fails with
    | unmatched missing unhooked => simp [hooked] at unhooked
    | refused missing again answer =>
      rw [asks_missing left missing, again, Option.map_some, answer]
      exact .refused left (not_fires_of_missing missing)
    | handler found | dangling found | full found =>
      rw [asks_found found]
      exact .error (hit?_fires left found) (by simp)
  | token left found computed known stored =>
    rw [asks_found found]
    have fires := hit?_fires left found
    obtain ⟨locations, rfl⟩ := hit?_eq found
    obtain ⟨-, rfl⟩ := ValueTable.append_ok stored
    exact .token fires

/-- A step that passes over text, in front of what the rest of the scan does. -/
theorem Passes.conduct {l m : Lexer σ κ ν} {s t : σ} {asked : List Consultation} {outcome : Outcome κ} {c : Cursor}
    {table : ValueTable ν} (passes : Passes l s m t) (rest : Conduct m.registry m.table m.cursor asked outcome c table) :
    Conduct l.registry l.table l.cursor (l.asks s ++ asked) outcome c table := by
  cases passes with
  | skip left found skips =>
    rw [asks_found found, List.nil_append]
    have fires := hit?_fires left found
    obtain ⟨locations, rfl⟩ := hit?_eq found
    exact .skip fires skips rest
  | giveUp left missing hooked answer =>
    rw [asks_missing left missing, hooked, Option.map_some, answer]
    obtain ⟨locations, rfl⟩ := hit?_eq missing
    rw [skipUnmatched_cursor] at rest
    exact .giveUp left (not_fires_of_missing missing) rest

/-- A scan with the list of calls is the same scan, and the calls that it puts on the list are those of its conduct. -/
theorem scan_recording (l : Lexer σ κ ν) (s : σ) {hook : Hook σ} (hooked : l.hook = some hook)
    (asked : List Consultation) : ∃ more, l.recording.scan (s, asked) = recorded (l.scan s) (asked ++ more) ∧
      Conduct l.registry l.table l.cursor more (l.scan s).1 (l.scan s).2.1.cursor (l.scan s).2.1.table := by
  have same := l.step_recording s asked
  rcases stepped : l.step s with ⟨_ | outcome, m, t⟩
  · have passes := step_passes stepped
    rw [stepped] at same
    obtain ⟨more, scanned, conduct⟩ := scan_recording m t (passes.frame.2.1.trans hooked) (asked ++ l.asks s)
    rw [scan_of_again stepped, scan_of_again same, scanned, List.append_assoc]
    exact ⟨_, rfl, passes.conduct conduct⟩
  · rw [stepped] at same
    rw [scan_of_done stepped, scan_of_done same]
    exact ⟨_, rfl, (step_ends stepped).conduct hooked⟩
termination_by l.cursor.rest.length
decreasing_by exact step_again_shorter stepped

theorem nextToken_recording (l : Lexer σ κ ν) (s : σ) {hook : Hook σ} (hooked : l.hook = some hook)
    (asked : List Consultation) :
    ∃ more, l.recording.nextToken (s, asked) = recorded (l.nextToken s) (asked ++ more) ∧
      Conduct l.registry l.table l.cursor more (l.nextToken s).1 (l.nextToken s).2.1.cursor
        (l.nextToken s).2.1.table := by
  obtain ⟨more, scanned, conduct⟩ := l.scan_recording s hooked asked
  refine ⟨more, ?_, conduct⟩
  simp only [nextToken, scanned, recorded]
  rfl

theorem next?_recording {l : Lexer σ κ ν} {s : σ} {asked asked' : List Consultation} (running : l.status = .running)
    (scanned : l.recording.nextToken (s, asked) = recorded (l.nextToken s) asked') :
    l.recording.next? (s, asked) = recorded (l.next? s) asked' := by
  rcases outcome : l.nextToken s with ⟨e | _ | token, m, t⟩ <;>
    simp only [next?, recording_status, running, if_true, scanned, outcome, recorded]

/-- A call with the list is the same call. If it scans, the calls of the hook are those of a conduct from the cursor
and the table in front of it to those behind it; otherwise there are none. -/
theorem call_recording (l : Lexer σ κ ν) (s : σ) {hook : Hook σ} (hooked : l.hook = some hook) (c : Call)
    (asked : List Consultation) :
    ∃ more, l.recording.call (s, asked) c = recorded (l.call s c) (asked ++ more) ∧
      (∀ outcome, l.scanOf? s (.call c) = some outcome →
        Conduct l.registry l.table l.cursor more outcome (l.call s c).2.1.cursor (l.call s c).2.1.table) ∧
      (l.scanOf? s (.call c) = none → more = [] ∧ (l.call s c).2 = (l, s)) := by
  obtain ⟨more, scanned, conduct⟩ := l.nextToken_recording s hooked asked
  cases c with
  | nextToken =>
    refine ⟨more, ?_, ?_, ?_⟩
    · simp only [call, scanned, recorded]
    · rintro outcome ⟨⟩
      exact conduct
    · intro none
      simp [scanOf?] at none
  | next =>
    by_cases running : l.status = .running
    · obtain ⟨given, behind⟩ := next?_running running s
      refine ⟨more, ?_, ?_, ?_⟩
      · simp only [call, next?_recording running scanned, recorded]
      · intro outcome reported
        simp only [scanOf?, running, or_true, if_true, Option.some.injEq] at reported
        subst reported
        change Conduct _ _ _ _ (Report.outcome (.given (l.next? s).1)) (l.next? s).2.1.cursor (l.next? s).2.1.table
        rw [given, behind]
        exact conduct
      · intro none
        simp [scanOf?, running] at none
    · have idle : l.recording.status ≠ .running := running
      refine ⟨[], ?_, ?_, ?_⟩
      · simp only [call, next?_idle running, next?_idle idle, recorded, List.append_nil]
      · intro outcome reported
        simp [scanOf?, running] at reported
      · intro _
        simp only [call, next?_idle running, and_self]

end Lexer

/-- Behind a call of the hook the cursor is not in front of where the hook was asked, and if it still is there then the
answer was to fail. -/
structure Consultation.Settled (a : Consultation) (position : Nat) : Prop where
  behind : a.told.position ≤ position
  moved : a.told.position = position → a.answer = .fail

theorem Consultation.Settled.mono {a : Consultation} {position further : Nat} (settled : a.Settled position)
    (later : position ≤ further) : a.Settled further := by
  refine ⟨Nat.le_trans settled.behind later, fun still => ?_⟩
  have before := settled.behind
  exact settled.moved (by omega)

/-- There was reason to ask: characters are left, the hook was told all of them, and nothing but perhaps the empty text
matches there. -/
structure Consultation.Justified (a : Consultation) (r : Registry σ κ ν) (source : List Char) : Prop where
  before : a.told.position < source.length
  whole : a.told.remaining = source.drop a.told.position
  missing : ∀ locations hit, (r.matchStart locations a.told.remaining).1 = some hit → hit.length = 0

/-- The calls of the hook up to a position. -/
structure Discipline (r : Registry σ κ ν) (source : List Char) (asked : List Consultation) (position : Nat) : Prop where
  settled : ∀ a ∈ asked, a.Settled position
  justified : ∀ a ∈ asked, a.Justified r source
  ordered : asked.Pairwise fun a b => a.Settled b.told.position

namespace Discipline
variable {r : Registry σ κ ν} {source : List Char} {asked : List Consultation} {position further : Nat}

theorem mono (discipline : Discipline r source asked position) (later : position ≤ further) :
    Discipline r source asked further where
  settled := fun a member => (discipline.settled a member).mono later
  justified := discipline.justified
  ordered := discipline.ordered

theorem concat {a : Consultation} (discipline : Discipline r source asked position) (there : a.told.position = position)
    (justified : a.Justified r source) (settled : a.Settled further) : Discipline r source (asked ++ [a]) further where
  settled := by
    intro b member
    rcases List.mem_append.mp member with old | new
    · exact (discipline.settled b old).mono (there ▸ settled.behind)
    · exact List.mem_singleton.mp new ▸ settled
  justified := by
    intro b member
    rcases List.mem_append.mp member with old | new
    · exact discipline.justified b old
    · exact List.mem_singleton.mp new ▸ justified
  ordered := by
    apply List.pairwise_append.mpr
    refine ⟨discipline.ordered, List.pairwise_singleton _ _, ?_⟩
    intro b old c new
    rw [List.mem_singleton.mp new, there]
    exact discipline.settled b old

end Discipline

/-- The rest is what the source has behind the position. -/
def Cursor.On (c : Cursor) (source : List Char) : Prop := c.rest = source.drop c.position

theorem Cursor.On.advance {c : Cursor} {source : List Char} (on : c.On source) (count : Nat) :
    (c.advance count).On source := by
  unfold Cursor.On at on ⊢
  simp only [Cursor.advance, List.length_take]
  rw [← List.drop_drop, ← on]
  exact List.drop_eq_drop_iff.mpr (by omega)

theorem Cursor.On.givenUp {c : Cursor} {source : List Char} (on : c.On source) (count : Nat) :
    (Lexer.givenUp c count).On source := by
  unfold Cursor.On at on ⊢
  simp only [Lexer.givenUp]
  rw [← List.drop_drop, ← on]

theorem Cursor.On.justified {c : Cursor} {source : List Char} {r : Registry σ κ ν} (on : c.On source)
    (left : c.rest ≠ []) (missing : ∀ hit, ¬r.Fires c hit) (answer : Recovery) :
    (Consultation.mk ⟨c.position, c.rest⟩ answer).Justified r source := by
  refine ⟨?_, on, fun locations => (Registry.not_fires_iff left locations).mp missing⟩
  apply Nat.lt_of_not_le
  intro behind
  exact left (on.trans (List.drop_eq_nil_of_le behind))

/-- A scan carries the discipline on. -/
theorem Lexer.Conduct.discipline {r : Registry σ κ ν} {table table' : ValueTable ν} {c c' : Cursor}
    {source : List Char} {asked more : List Consultation} {outcome : Lexer.Outcome κ}
    (conduct : Lexer.Conduct r table c more outcome c' table') (on : c.On source)
    (discipline : Discipline r source asked c.position) : Discipline r source (asked ++ more) c'.position := by
  induction conduct generalizing asked with
  | endOfInput | error => rwa [List.append_nil]
  | token =>
    rw [List.append_nil]
    exact discipline.mono (Nat.le_add_right _ _)
  | refused left missing =>
    exact discipline.concat rfl (on.justified left missing .fail) ⟨Nat.le_refl _, fun _ => rfl⟩
  | skip fires skips rest ih => exact ih (on.advance _) (discipline.mono (Nat.le_add_right _ _))
  | @giveUp c _ count _ _ _ left missing rest ih =>
    have some : 0 < c.rest.length := List.length_pos_iff.mpr left
    have moved : c.position < (Lexer.givenUp c count).position := by
      simp only [Lexer.givenUp]
      omega
    rw [List.append_cons]
    apply ih (on.givenUp count)
    exact discipline.concat rfl (on.justified left missing _)
      ⟨Nat.le_of_lt moved, fun still => absurd still (Nat.ne_of_lt moved)⟩

namespace Lexer

/-- A run with the list of calls is the same run. -/
theorem run_recording (calls : List Call) (l : Lexer σ κ ν) (s : σ) {hook : Hook σ} (hooked : l.hook = some hook)
    (covered : l.Covered) {asked : List Consultation}
    (discipline : Discipline l.registry l.source asked l.position) :
    ∃ more, l.recording.run (s, asked) calls = recorded (l.run s calls) (asked ++ more) ∧
      Discipline l.registry l.source (asked ++ more) (l.run s calls).2.1.position := by
  induction calls generalizing l s asked with
  | nil => exact ⟨[], by rw [List.append_nil]; rfl, by rwa [List.append_nil]⟩
  | cons c calls ih =>
    obtain ⟨more, called, conduct, idle⟩ := l.call_recording s hooked c asked
    obtain ⟨registry, hook⟩ := (kept_frame l.registry l.hook).call l s c ⟨rfl, rfl⟩
    have source := (kept_source l.source).call l s c rfl
    have further : Discipline l.registry l.source (asked ++ more) (l.call s c).2.1.position := by
      cases scanned : l.scanOf? s (.call c) with
      | none =>
        obtain ⟨rfl, still⟩ := idle scanned
        rwa [still, List.append_nil]
      | some outcome => exact (conduct outcome scanned).discipline covered.rest discipline
    rw [← registry, ← source] at further
    obtain ⟨others, ran, disciplined⟩ :=
      ih (l.call s c).2.1 (l.call s c).2.2 (hook.trans hooked) (kept_covered.call l s c covered) further
    rw [registry, source, List.append_assoc] at disciplined
    refine ⟨more ++ others, ?_, disciplined⟩
    rw [List.append_assoc] at ran
    simp only [run, called, recorded] at ran ⊢
    rw [ran]

/-- The hook over a whole run, with all of its calls on a list; the list changes nothing else. Whatever is called next,
its scan conducts itself as it should: the hook is asked where nothing fires and only there, every answer to skip moves
the cursor as far as it says and lets the scan go on, and an answer to fail ends it. So every call on the list was made
before the end of the source, where no definition matches anything but the empty text, and was told the position and
all that remains; the positions never go back, and the hook is asked at a position again only if it answered to fail. -/
theorem run_consultations (registry : Registry σ κ ν) (hook : Hook σ) (source : List Char) (calls : List Call) (s : σ) :
    let fresh := ofSource registry (some hook) source
    let l := (fresh.run s calls).2.1
    let t := (fresh.run s calls).2.2
    let asked := (fresh.recording.run (s, []) calls).2.2.2
    fresh.recording.run (s, []) calls = recorded (fresh.run s calls) asked ∧
      (∀ c, ∃ more, l.recording.call (t, asked) c = recorded (l.call t c) (asked ++ more) ∧
        (∀ outcome, l.scanOf? t (.call c) = some outcome →
          Conduct registry l.table l.cursor more outcome (l.call t c).2.1.cursor (l.call t c).2.1.table) ∧
        (l.scanOf? t (.call c) = none → more = [] ∧ (l.call t c).2 = (l, t))) ∧
      (∀ a ∈ asked, a.told.position < source.length ∧ a.told.remaining = source.drop a.told.position ∧
        ∀ locations hit, (registry.matchStart locations a.told.remaining).1 = some hit → hit.length = 0) ∧
      asked.Pairwise fun a b =>
        a.told.position ≤ b.told.position ∧ (a.told.position = b.told.position → a.answer = .fail) := by
  intro fresh l t asked
  have covered : fresh.Covered := covered_ofSource registry (some hook) source
  have none : Discipline registry source [] 0 := ⟨by simp, by simp, .nil⟩
  obtain ⟨more, ran, discipline⟩ := run_recording calls fresh s rfl covered none
  have list : asked = more := congrArg (·.2.2.2) ran
  rw [List.nil_append, ← list] at ran discipline
  obtain ⟨same, hooked⟩ := (kept_frame registry (some hook)).run calls fresh s ⟨rfl, rfl⟩
  refine ⟨ran, ?_, ?_, ?_⟩
  · intro c
    have next := l.call_recording t hooked c asked
    rwa [same] at next
  · intro a member
    obtain ⟨before, whole, missing⟩ := discipline.justified a member
    exact ⟨before, whole, missing⟩
  · refine discipline.ordered.imp ?_
    intro a b settled
    exact ⟨settled.behind, settled.moved⟩

end Lexer
end Lexicon

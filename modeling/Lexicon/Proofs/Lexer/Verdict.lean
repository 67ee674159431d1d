import Lexicon.Proofs.Lexer.Failure
import Lexicon.Proofs.ValueTable

/-! What one call reports where no hook is asked: the cursor first passes over everything that definitions skip, and
what fires there decides. Every report has one condition, and the conditions exclude each other. -/
namespace Lexicon
variable {σ κ ν : Type}

def Role.isSkip : Role σ κ ν → Bool
  | .skip => true
  | .token _ | .dispatch _ => false

/-- While there are numbers left, the next characters can be stored with any value. -/
theorem Lexer.append_of_room (l : Lexer σ κ ν) (room : l.table.size + 1 < 0x100000000) (count : Nat) (value : Value ν) :
    ∃ stored, l.table.append value (l.cursor.range count) (l.cursor.bytes count) = .ok stored := by
  have ordered : Entry.Ordered ⟨value, l.cursor.range count, l.cursor.bytes count⟩ :=
    ⟨Nat.le_add_right _ _, Nat.le_add_right _ _⟩
  obtain ⟨id, -, stored⟩ := ValueTable.append_stored ordered (Nat.lt_of_succ_lt_succ room)
  exact ⟨_, stored⟩

theorem dangling?_eq_some {table : ValueTable ν} {value : Value ν} {target : TokenId} :
    Lexer.dangling? table value = some target ↔ value = .ref target ∧ table.contains target = false := by
  cases value with
  | text | literal => simp [Lexer.dangling?]
  | ref other =>
    cases known : table.contains other
    · simp only [Lexer.dangling?, known, Value.ref.injEq, Option.some.injEq, Bool.false_eq_true, if_false]
      constructor
      · rintro rfl
        exact ⟨rfl, known⟩
      · exact And.left
    · simp only [Lexer.dangling?, known, Value.ref.injEq, if_true, reduceCtorEq, false_iff, not_and]
      rintro rfl
      simp [known]

theorem dangling?_eq_none {table : ValueTable ν} {value : Value ν} :
    Lexer.dangling? table value = none ↔ ∀ target, value = .ref target → table.contains target = true := by
  rw [Option.eq_none_iff_forall_ne_some]
  constructor
  · intro none target same
    have known := mt dangling?_eq_some.mpr (none target)
    simpa [same] using known
  · intro known target unknown
    obtain ⟨same, absent⟩ := dangling?_eq_some.mp unknown
    simp [known target same] at absent

namespace Registry

/-- A definition fires at a cursor before the end of the source, with a match that is not empty. -/
structure Fires (r : Registry σ κ ν) (c : Cursor) (hit : Hit σ κ ν) : Prop where
  left : c.rest ≠ []
  found : (r.matchStart .empty c.rest).1 = some hit
  positive : 0 < hit.length

/-- The cursor behind the longest run of matches, none of them empty, of definitions that skip. -/
def pastSkips (r : Registry σ κ ν) (c : Cursor) : Cursor :=
  match _left : c.rest with
  | [] => c
  | _ :: _ =>
    match (r.matchStart .empty c.rest).1 with
    | none => c
    | some hit =>
      if _skips : 0 < hit.length ∧ hit.definition.role.isSkip then r.pastSkips (c.advance hit.length) else c
termination_by c.rest.length
decreasing_by exact Cursor.advance_shorter (by simp [_left]) _skips.1

variable {r : Registry σ κ ν} {c : Cursor} {hit other : Hit σ κ ν}

theorem Fires.unique (fires : r.Fires c hit) (again : r.Fires c other) : hit = other :=
  Option.some.inj (fires.found.symm.trans again.found)

theorem not_fires_iff (left : c.rest ≠ []) (locations : Regex.Locations) : (∀ hit, ¬r.Fires c hit) ↔
    ∀ hit, (r.matchStart locations c.rest).1 = some hit → hit.length = 0 := by
  rw [r.matchStart_eq locations .empty]
  constructor
  · intro missing hit found
    exact Nat.eq_zero_of_not_pos fun positive => missing hit ⟨left, found, positive⟩
  · intro empty hit fires
    have positive := fires.positive
    rw [empty hit fires.found] at positive
    exact Nat.lt_irrefl 0 positive

theorem Fires.pastSkips (fires : r.Fires c hit) (skips : hit.definition.role = .skip) :
    r.pastSkips c = r.pastSkips (c.advance hit.length) := by
  have skip : hit.definition.role.isSkip = true := by rw [skips]; rfl
  rw [Registry.pastSkips]
  split
  · next consumed => exact absurd consumed fires.left
  · simp only [fires.found]
    rw [dif_pos ⟨fires.positive, skip⟩]

/-- The run ends where no definition that skips fires. -/
theorem pastSkips_eq_self (stops : ∀ hit, r.Fires c hit → hit.definition.role ≠ .skip) : r.pastSkips c = c := by
  rw [pastSkips]
  split
  · rfl
  · next first rest left =>
    split
    · rfl
    · next hit found =>
      rw [dif_neg]
      rintro ⟨positive, skip⟩
      apply stops hit ⟨by simp [left], found, positive⟩
      cases role : hit.definition.role <;> simp [role, Role.isSkip] at skip ⊢

end Registry

/-- The kind and the value that a definition gives to its match: its own kind and the text, or what its handler
answers. -/
inductive Hit.Gives (hit : Hit σ κ ν) (table : ValueTable ν) (c : Cursor) (s : σ) : κ → Value ν → Prop where
  | token {kind : κ} (role : hit.definition.role = .token kind) :
      Gives hit table c s kind (.text (String.ofList (c.rest.take hit.length)))
  | dispatch {handler : Handler σ κ ν} {kind : κ} {value : Value ν} (role : hit.definition.role = .dispatch handler)
      (answer : (handler (String.ofList (c.rest.take hit.length)) table s).1 = .ok (kind, value)) :
      Gives hit table c s kind value

theorem Hit.Gives.unique {hit : Hit σ κ ν} {table : ValueTable ν} {c : Cursor} {s : σ} {kind again : κ}
    {value other : Value ν} (gives : hit.Gives table c s kind value) (repeated : hit.Gives table c s again other) :
    kind = again ∧ value = other := by
  cases gives with
  | token role =>
    cases repeated with
    | token same =>
      rw [role, Role.token.injEq] at same
      exact ⟨same, rfl⟩
    | dispatch same => simp [role] at same
  | dispatch role answer =>
    cases repeated with
    | token same => simp [role] at same
    | dispatch same reply =>
      rw [role, Role.dispatch.injEq] at same
      subst same
      rw [answer, Except.ok.injEq, Prod.mk.injEq] at reply
      exact reply

theorem Hit.Gives.not_fails {hit : Hit σ κ ν} {table : ValueTable ν} {c : Cursor} {s : σ} {kind : κ} {value : Value ν}
    {handler : Handler σ κ ν} {failure : Failure} (gives : hit.Gives table c s kind value)
    (role : hit.definition.role = .dispatch handler) :
    (handler (String.ofList (c.rest.take hit.length)) table s).1 ≠ .error failure := by
  intro failed
  cases gives with
  | token same => simp [role] at same
  | dispatch same answer =>
    rw [role, Role.dispatch.injEq] at same
    subst same
    simp [failed] at answer

namespace Lexer

/-- What is reported at a cursor behind all that is skipped, and when. -/
inductive Verdict (r : Registry σ κ ν) (table : ValueTable ν) (c : Cursor) (s : σ) : Outcome κ → Prop where
  | endOfInput (consumed : c.rest = []) : Verdict r table c s (.ok none)
  | unmatched (left : c.rest ≠ []) (missing : ∀ hit, ¬r.Fires c hit) :
      Verdict r table c s (.error (.unmatched c.position (String.ofList c.rest)))
  | handler {hit : Hit σ κ ν} {handler : Handler σ κ ν} {failure : Failure} (fires : r.Fires c hit)
      (role : hit.definition.role = .dispatch handler)
      (answer : (handler (String.ofList (c.rest.take hit.length)) table s).1 = .error failure) :
      Verdict r table c s (.error (.handler (c.range hit.length) failure))
  | dangling {hit : Hit σ κ ν} {kind : κ} {target : TokenId} (fires : r.Fires c hit)
      (gives : hit.Gives table c s kind (.ref target)) (unknown : table.contains target = false) :
      Verdict r table c s (.error (.dangling (c.range hit.length) target))
  | token {hit : Hit σ κ ν} {kind : κ} {value : Value ν} {id : TokenId} (fires : r.Fires c hit)
      (gives : hit.Gives table c s kind value) (known : ∀ target, value = .ref target → table.contains target = true)
      (number : id.number = table.size + 1) : Verdict r table c s (.ok (some (kind, id)))

/-- The conditions exclude each other. -/
theorem Verdict.unique {r : Registry σ κ ν} {table : ValueTable ν} {c : Cursor} {s : σ} {outcome other : Outcome κ}
    (verdict : Verdict r table c s outcome) (again : Verdict r table c s other) : outcome = other := by
  cases verdict with
  | endOfInput consumed =>
    cases again with
    | endOfInput => rfl
    | unmatched left => exact absurd consumed left
    | handler fires | dangling fires | token fires => exact absurd consumed fires.left
  | unmatched left missing =>
    cases again with
    | endOfInput consumed => exact absurd consumed left
    | unmatched => rfl
    | handler fires | dangling fires | token fires => exact absurd fires (missing _)
  | handler fires role answer =>
    cases again with
    | endOfInput consumed => exact absurd consumed fires.left
    | unmatched _ missing => exact absurd fires (missing _)
    | handler firing same reply =>
      cases fires.unique firing
      rw [role, Role.dispatch.injEq] at same
      subst same
      rw [answer, Except.error.injEq] at reply
      rw [reply]
    | dangling firing gives | token firing gives =>
      cases fires.unique firing
      exact absurd answer (gives.not_fails role)
  | dangling fires gives unknown =>
    cases again with
    | endOfInput consumed => exact absurd consumed fires.left
    | unmatched _ missing => exact absurd fires (missing _)
    | handler firing role answer =>
      cases fires.unique firing
      exact absurd answer (gives.not_fails role)
    | dangling firing repeated =>
      cases fires.unique firing
      obtain ⟨-, same⟩ := gives.unique repeated
      cases same
      rfl
    | token firing repeated known =>
      cases fires.unique firing
      obtain ⟨-, same⟩ := gives.unique repeated
      simp [known _ same.symm] at unknown
  | token fires gives known number =>
    cases again with
    | endOfInput consumed => exact absurd consumed fires.left
    | unmatched _ missing => exact absurd fires (missing _)
    | handler firing role answer =>
      cases fires.unique firing
      exact absurd answer (gives.not_fails role)
    | dangling firing repeated unknown =>
      cases fires.unique firing
      obtain ⟨-, same⟩ := gives.unique repeated
      simp [known _ same] at unknown
    | token firing repeated _ another =>
      cases fires.unique firing
      obtain ⟨rfl, -⟩ := gives.unique repeated
      rw [TokenId.eq_of_number (number.trans another.symm)]

theorem hit?_fires {l m : Lexer σ κ ν} {hit : Hit σ κ ν} (left : l.remaining ≠ []) (found : l.hit? = (some hit, m)) :
    l.registry.Fires l.cursor hit := by
  have fired : (l.registry.matchStart l.locations l.cursor.rest).1.filter (0 < ·.length) = some hit :=
    congrArg Prod.fst found
  rw [l.registry.matchStart_eq l.locations .empty] at fired
  obtain ⟨found, positive⟩ := Option.filter_eq_some_iff.mp fired
  exact ⟨left, found, by simpa using positive⟩

theorem not_fires_of_missing {l m : Lexer σ κ ν} (missing : l.hit? = (none, m)) (hit : Hit σ κ ν) :
    ¬l.registry.Fires l.cursor hit := by
  intro fires
  have none : (l.registry.matchStart l.locations l.cursor.rest).1.filter (0 < ·.length) = .none :=
    congrArg Prod.fst missing
  rw [l.registry.matchStart_eq l.locations .empty, fires.found] at none
  simp [Option.filter, fires.positive] at none

/-- What is passed over without a hook is a match of a definition that skips. -/
theorem Passes.unhooked {l l' : Lexer σ κ ν} {s s' : σ} (passes : Passes l s l' s') (unhooked : l.hook = none) :
    s' = s ∧ l.registry.pastSkips l.cursor = l.registry.pastSkips l'.cursor := by
  cases passes with
  | skip left found skips =>
    have fires := hit?_fires left found
    obtain ⟨locations, rfl⟩ := hit?_eq found
    exact ⟨rfl, fires.pastSkips skips⟩
  | giveUp left missing hooked answer => simp [unhooked] at hooked

theorem Passing.unhooked {l l' : Lexer σ κ ν} {s s' : σ} (passing : Passing l s l' s') (unhooked : l.hook = none) :
    s' = s ∧ l.registry.pastSkips l.cursor = l.registry.pastSkips l'.cursor := by
  induction passing with
  | refl => exact ⟨rfl, rfl⟩
  | step first _ ih =>
    obtain ⟨same, run⟩ := first.unhooked unhooked
    obtain ⟨registry, hook, -⟩ := first.frame
    obtain ⟨still, further⟩ := ih (hook.trans unhooked)
    exact ⟨still.trans same, run.trans (registry ▸ further)⟩

theorem Computes.gives {l : Lexer σ κ ν} {s s' : σ} {hit : Hit σ κ ν} {kind : κ} {value : Value ν}
    (computed : l.Computes hit.length s hit.definition.role kind value s') :
    hit.Gives l.table l.cursor s kind value := by
  generalize role : hit.definition.role = given at computed
  cases computed with
  | token => exact .token role
  | dispatch answer => exact .dispatch role (congrArg Prod.fst answer)

/-- How a scan ends is the verdict at the cursor. -/
theorem Ends.verdict {l l' : Lexer σ κ ν} {s s' : σ} {outcome : Outcome κ} (ends : Ends l s outcome l' s')
    (unhooked : l.hook = none) (room : l.table.size + 1 < 0x100000000) :
    Verdict l.registry l.table l.cursor s outcome := by
  cases ends with
  | endOfInput consumed => exact .endOfInput consumed
  | error left fails =>
    cases fails with
    | unmatched missing => exact .unmatched left (not_fires_of_missing missing)
    | refused missing hooked => simp [unhooked] at hooked
    | handler found role answer => exact .handler (hit?_fires left found) role (congrArg Prod.fst answer)
    | dangling found computed unknown =>
      obtain ⟨rfl, absent⟩ := dangling?_eq_some.mp unknown
      exact .dangling (hit?_fires left found) computed.gives absent
    | full found computed known refused =>
      obtain ⟨stored, kept⟩ := l.append_of_room room _ _
      rw [refused] at kept
      simp at kept
  | token left found computed known stored =>
    exact .token (hit?_fires left found) computed.gives (dangling?_eq_none.mp known) (ValueTable.append_ok stored).1

/-- A verdict is given where no definition that skips fires. -/
theorem Verdict.pastSkips {r : Registry σ κ ν} {table : ValueTable ν} {c : Cursor} {s : σ} {outcome : Outcome κ}
    (verdict : Verdict r table c s outcome) : r.pastSkips c = c := by
  have given {hit : Hit σ κ ν} {kind : κ} {value : Value ν} (gives : hit.Gives table c s kind value) :
      hit.definition.role ≠ .skip := by
    cases gives with
    | token role | dispatch role => simp [role]
  apply Registry.pastSkips_eq_self
  intro hit firing
  cases verdict with
  | endOfInput consumed => exact absurd consumed firing.left
  | unmatched _ missing => exact absurd firing (missing hit)
  | handler fires role =>
    cases fires.unique firing
    simp [role]
  | dangling fires gives | token fires gives =>
    cases fires.unique firing
    exact given gives

/-- Without a hook a call ends at the cursor behind all that is skipped, with the table and the state it began with. -/
theorem nextToken_ends {l l' : Lexer σ κ ν} {s s' : σ} {outcome : Outcome κ} (unhooked : l.hook = none)
    (room : l.table.size + 1 < 0x100000000) (scanned : l.nextToken s = (outcome, l', s')) :
    ∃ m last, m.cursor = l.registry.pastSkips l.cursor ∧ m.table = l.table ∧ m.registry = l.registry ∧ m.hook = none ∧
      Ends m s outcome last s' ∧ l' = { last with status := Outcome.status outcome } := by
  rcases ran : l.scan s with ⟨result, last, u⟩
  simp only [Lexer.nextToken, ran, Prod.mk.injEq] at scanned
  obtain ⟨rfl, rfl, rfl⟩ := scanned
  obtain ⟨m, t, passing, ends⟩ := scan_passing ran
  obtain ⟨registry, hook, table⟩ := passing.frame
  obtain ⟨rfl, run⟩ := passing.unhooked unhooked
  have stops := (ends.verdict (hook.trans unhooked) (table ▸ room)).pastSkips
  exact ⟨m, last, by rw [run, ← registry, stops], table, registry, hook.trans unhooked, ends, rfl⟩

/-- What one call reports without a hook, below the limit of tokens. First the cursor passes over the longest run of
matches that definitions skip, none of them empty. Then the source is at its end; or nothing fires there; or the
handler that fires fails; or it refers to a token that is not stored; or else a token is stored, with its kind, its
value and the stretches of its match, and the cursor ends behind the match. Each report comes exactly under its
condition, and there is no other. -/
theorem nextToken_outcome {l : Lexer σ κ ν} (unhooked : l.hook = none) (room : l.table.size + 1 < 0x100000000) (s : σ) :
    let c := l.registry.pastSkips l.cursor
    let outcome := (l.nextToken s).1
    let l' := (l.nextToken s).2.1
    (outcome = .ok none ↔ c.rest = []) ∧
      (∀ position remaining, outcome = .error (.unmatched position remaining) ↔ c.rest ≠ [] ∧
        (∀ hit, (l.registry.matchStart l.locations c.rest).1 = some hit → hit.length = 0) ∧
        position = c.position ∧ remaining = String.ofList c.rest) ∧
      (∀ range failure, outcome = .error (.handler range failure) ↔ ∃ hit handler, l.registry.Fires c hit ∧
        hit.definition.role = .dispatch handler ∧
        (handler (String.ofList (c.rest.take hit.length)) l.table s).1 = .error failure ∧ range = c.range hit.length) ∧
      (∀ range target, outcome = .error (.dangling range target) ↔ ∃ hit kind, l.registry.Fires c hit ∧
        hit.Gives l.table c s kind (.ref target) ∧ l.table.contains target = false ∧ range = c.range hit.length) ∧
      (∀ position, outcome ≠ .error (.tooManyTokens position)) ∧
      ∀ kind id, outcome = .ok (some (kind, id)) ↔ ∃ hit value, l.registry.Fires c hit ∧
        hit.Gives l.table c s kind value ∧ (∀ target, value = .ref target → l.table.contains target = true) ∧
        id.number = l.table.size + 1 ∧ l'.cursor = c.advance hit.length ∧
        l'.table.entries = l.table.entries.push ⟨value, c.range hit.length, c.bytes hit.length⟩ := by
  rcases scanned : l.nextToken s with ⟨outcome, l', s'⟩
  intro c result last
  obtain ⟨m, after, cursor, table, registry, hook, ends, rfl⟩ := nextToken_ends unhooked room scanned
  have verdict := ends.verdict hook (table ▸ room)
  rw [cursor, table, registry] at verdict
  refine ⟨⟨?_, fun consumed => verdict.unique (.endOfInput consumed)⟩, fun position remaining => ⟨?_, ?_⟩,
    fun range failure => ⟨?_, ?_⟩, fun range target => ⟨?_, ?_⟩, ?_, fun kind id => ⟨?_, ?_⟩⟩
  · rintro rfl
    cases verdict with
    | endOfInput consumed => exact consumed
  · rintro rfl
    cases verdict with
    | unmatched left missing => exact ⟨left, (Registry.not_fires_iff left l.locations).mp missing, rfl, rfl⟩
  · rintro ⟨left, missing, rfl, rfl⟩
    exact verdict.unique (.unmatched left ((Registry.not_fires_iff left l.locations).mpr missing))
  · rintro rfl
    cases verdict with
    | handler fires role answer => exact ⟨_, _, fires, role, answer, rfl⟩
  · rintro ⟨hit, handler, fires, role, answer, rfl⟩
    exact verdict.unique (.handler fires role answer)
  · rintro rfl
    cases verdict with
    | dangling fires gives unknown => exact ⟨_, _, fires, gives, unknown, rfl⟩
  · rintro ⟨hit, kind, fires, gives, unknown, rfl⟩
    exact verdict.unique (.dangling fires gives unknown)
  · rintro position rfl
    cases verdict
  · rintro rfl
    cases ends with
    | token left found computed known stored =>
      have fires := hit?_fires left found
      have gives := computed.gives
      have present := dangling?_eq_none.mp known
      obtain ⟨number, rfl⟩ := ValueTable.append_ok stored
      obtain ⟨locations, rfl⟩ := hit?_eq found
      rw [registry, cursor] at fires
      rw [table, cursor] at gives
      rw [table] at present number
      refine ⟨_, _, fires, gives, present, number, ?_, ?_⟩
      · change m.cursor.advance _ = _
        rw [cursor]
      · change m.table.entries.push _ = _
        rw [table, cursor]
  · rintro ⟨hit, value, fires, gives, known, number, -, -⟩
    exact verdict.unique (.token fires gives known number)

/-- The number of the first token. -/
def firstToken : TokenId := ⟨1, by decide, by decide⟩

/-- Blanks are passed over, and the handler of `x` refers to the token that the `x` itself would be. -/
def pointingDefinitions : List (Definition Unit String Int) :=
  [⟨.literal " ", .skip⟩, ⟨.literal "x", .dispatch fun _ _ s => (.ok ("X", .ref firstToken), s)⟩]

theorem nextToken_outcome_behind_blank :
    ∃ r, Registry.build pointingDefinitions = .ok r ∧ (ofSource r none [' ', 'x']).hook = none ∧
      (ofSource r none [' ', 'x']).table.size + 1 < 0x100000000 ∧
      ((ofSource r none [' ', 'x']).nextToken ()).1 = .error (.dangling ⟨1, 2⟩ firstToken) ∧
      ∃ hit kind, r.Fires (r.pastSkips (.start [' ', 'x'])) hit ∧
        hit.Gives .empty (r.pastSkips (.start [' ', 'x'])) () kind (.ref firstToken) ∧
        (r.pastSkips (.start [' ', 'x'])).range hit.length = ⟨1, 2⟩ := by
  have scanned : (Registry.build pointingDefinitions).toOption.bind
      (fun r => Report.error? (.scanned ((ofSource r none [' ', 'x']).nextToken ()).1)) =
        some (.dangling ⟨1, 2⟩ firstToken) := by decide +kernel
  rcases built : Registry.build pointingDefinitions with _ | r
  · rw [built] at scanned
    simp [Except.toOption] at scanned
  · rw [built] at scanned
    have reported : ((ofSource r none [' ', 'x']).nextToken ()).1 = .error (.dangling ⟨1, 2⟩ firstToken) :=
      congrArg Prod.fst (call_error (c := .nextToken) rfl scanned)
    have unhooked : (ofSource r none [' ', 'x']).hook = none := rfl
    have room : (ofSource r none [' ', 'x']).table.size + 1 < 0x100000000 := by
      simp [ofSource, ValueTable.empty, ValueTable.size]
    obtain ⟨-, -, -, dangles, -⟩ := nextToken_outcome unhooked room ()
    obtain ⟨hit, kind, fires, gives, -, range⟩ := (dangles _ _).mp reported
    exact ⟨r, rfl, unhooked, room, reported, hit, kind, fires, gives, range.symm⟩

end Lexer
end Lexicon

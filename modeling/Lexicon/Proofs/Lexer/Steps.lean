import Lexicon.Lexer.Scan

/-! What one step of a scan can do, said once: it passes over text, or it ends the scan. A scan is a run of
passing steps and then one ending. -/
namespace Lexicon.Lexer
variable {σ κ ν : Type}

/-- The text at the cursor is passed over: a definition that skips fires, or the hook gives up characters
where none fires. -/
inductive Passes : Lexer σ κ ν → σ → Lexer σ κ ν → σ → Prop where
  | skip {l m : Lexer σ κ ν} {s : σ} {hit : Hit σ κ ν} (left : l.remaining ≠ [])
      (found : l.hit? = (some hit, m)) (skips : hit.definition.role = .skip) :
      Passes l s (m.advance hit.length (.skipped (m.cursor.range hit.length))) s
  | giveUp {l m : Lexer σ κ ν} {s s' : σ} {hook : Hook σ} {count : Nat} (left : l.remaining ≠ [])
      (missing : l.hit? = (none, m)) (hooked : l.hook = some hook)
      (answer : hook l.unmatched s = (.skip count, s')) : Passes l s (m.skipUnmatched count) s'

/-- The kind and the value that a definition gives to the next `count` characters. -/
inductive Computes (l : Lexer σ κ ν) (count : Nat) (s : σ) : Role σ κ ν → κ → Value ν → σ → Prop where
  | token {kind : κ} : Computes l count s (.token kind) kind (.text (l.lexeme count)) s
  | dispatch {handler : Handler σ κ ν} {kind : κ} {value : Value ν} {s' : σ}
      (answer : handler (l.lexeme count) l.table s = (.ok (kind, value), s')) :
      Computes l count s (.dispatch handler) kind value s'

/-- A scan fails at the cursor. -/
inductive Fails : Lexer σ κ ν → σ → ScanError → Lexer σ κ ν → σ → Prop where
  | unmatched {l m : Lexer σ κ ν} {s : σ} (missing : l.hit? = (none, m)) (unhooked : l.hook = none) :
      Fails l s (.unmatched l.position (String.ofList l.remaining)) m s
  | refused {l m : Lexer σ κ ν} {s s' : σ} {hook : Hook σ} (missing : l.hit? = (none, m))
      (hooked : l.hook = some hook) (answer : hook l.unmatched s = (.fail, s')) :
      Fails l s (.unmatched l.position (String.ofList l.remaining)) m s'
  | handler {l m : Lexer σ κ ν} {s s' : σ} {hit : Hit σ κ ν} {handler : Handler σ κ ν}
      {failure : Failure} (found : l.hit? = (some hit, m)) (dispatches : hit.definition.role = .dispatch handler)
      (answer : handler (l.lexeme hit.length) l.table s = (.error failure, s')) :
      Fails l s (.handler (l.cursor.range hit.length) failure) m s'
  | dangling {l m : Lexer σ κ ν} {s s' : σ} {hit : Hit σ κ ν} {kind : κ} {value : Value ν} {target : TokenId}
      (found : l.hit? = (some hit, m)) (computed : l.Computes hit.length s hit.definition.role kind value s')
      (unknown : dangling? l.table value = some target) :
      Fails l s (.dangling (l.cursor.range hit.length) target) m s'
  | full {l m : Lexer σ κ ν} {s s' : σ} {hit : Hit σ κ ν} {kind : κ} {value : Value ν}
      {refusal : ValueTable.Refusal} (found : l.hit? = (some hit, m))
      (computed : l.Computes hit.length s hit.definition.role kind value s')
      (known : dangling? l.table value = none)
      (refused : l.table.append value (l.cursor.range hit.length) (l.cursor.bytes hit.length) = .error refusal) :
      Fails l s (.tooManyTokens l.position) m s'

/-- A scan ends at the cursor: with the source, with an error, or with a token. -/
inductive Ends : Lexer σ κ ν → σ → Outcome κ → Lexer σ κ ν → σ → Prop where
  | endOfInput {l : Lexer σ κ ν} {s : σ} (consumed : l.remaining = []) : Ends l s (.ok none) l s
  | error {l m : Lexer σ κ ν} {s s' : σ} {e : ScanError} (left : l.remaining ≠ [])
      (fails : Fails l s e m s') : Ends l s (.error e) m s'
  | token {l m : Lexer σ κ ν} {s s' : σ} {hit : Hit σ κ ν} {kind : κ} {value : Value ν} {id : TokenId}
      {table : ValueTable ν} (left : l.remaining ≠ []) (found : l.hit? = (some hit, m))
      (computed : l.Computes hit.length s hit.definition.role kind value s')
      (known : dangling? l.table value = none)
      (stored : l.table.append value (l.cursor.range hit.length) (l.cursor.bytes hit.length) = .ok (id, table)) :
      Ends l s (.ok (some (kind, id)))
        { m.advance hit.length (.token (m.cursor.range hit.length) id) with table } s'

/-- What a step may lead to. -/
def Steps (l : Lexer σ κ ν) (s : σ) : Progress κ → Lexer σ κ ν → σ → Prop
  | .again, l', s' => Passes l s l' s'
  | .done outcome, l', s' => Ends l s outcome l' s'

/-- The lexer differs from the one before it in the groups of the last match alone. -/
theorem hit?_eq {l m : Lexer σ κ ν} {hit : Option (Hit σ κ ν)} (found : l.hit? = (hit, m)) :
    ∃ locations, m = { l with locations } :=
  ⟨_, (congrArg Prod.snd found).symm⟩

theorem hit?_remaining {l m : Lexer σ κ ν} {hit : Option (Hit σ κ ν)} (found : l.hit? = (hit, m)) :
    m.remaining = l.remaining :=
  congrArg Cursor.rest (hit?_cursor found)

theorem Fails.hit {l m : Lexer σ κ ν} {s s' : σ} {e : ScanError} (fails : Fails l s e m s') :
    ∃ hit, l.hit? = (hit, m) := by
  cases fails with
  | unmatched missing _ | refused missing _ _ => exact ⟨none, missing⟩
  | handler found _ _ | dangling found _ _ | full found _ _ _ => exact ⟨some _, found⟩

private theorem recover_steps {l m : Lexer σ κ ν} {s : σ} (left : l.remaining ≠ [])
    (missing : l.hit? = (none, m)) : l.Steps s (m.recover s).1 (m.recover s).2.1 (m.recover s).2.2 := by
  obtain ⟨locations, rfl⟩ := hit?_eq missing
  unfold recover
  split
  · next unhooked => exact .error left (.unmatched missing unhooked)
  · next hook hooked =>
    split
    · next answer => exact .error left (.refused missing hooked answer)
    · next answer => exact .giveUp left missing hooked answer

private theorem emit_ends {l m : Lexer σ κ ν} {s s' : σ} {hit : Hit σ κ ν} {kind : κ} {value : Value ν}
    (left : l.remaining ≠ []) (found : l.hit? = (some hit, m))
    (computed : l.Computes hit.length s hit.definition.role kind value s') :
    Ends l s (m.emit hit.length kind value).1 (m.emit hit.length kind value).2 s' := by
  obtain ⟨locations, rfl⟩ := hit?_eq found
  cases known : dangling? l.table value with
  | some target =>
    simp only [emit, known]
    exact .error left (.dangling found computed known)
  | none =>
    rcases stored : l.table.append value (l.cursor.range hit.length) (l.cursor.bytes hit.length) with
      refusal | ⟨id, table⟩
    · simp only [emit, known, stored]
      exact .error left (.full found computed known stored)
    · simp only [emit, known, stored]
      exact .token left found computed known stored

private theorem perform_steps {l m : Lexer σ κ ν} {s : σ} {hit : Hit σ κ ν} (left : l.remaining ≠ [])
    (found : l.hit? = (some hit, m)) :
    l.Steps s (m.perform hit.length s hit.definition.role).1 (m.perform hit.length s hit.definition.role).2.1
      (m.perform hit.length s hit.definition.role).2.2 := by
  obtain ⟨locations, same⟩ := hit?_eq found
  have lexeme : m.lexeme hit.length = l.lexeme hit.length := by rw [same]; rfl
  have table : m.table = l.table := by rw [same]
  cases role : hit.definition.role with
  | skip => exact .skip left found role
  | token kind =>
    simp only [perform, lexeme]
    exact emit_ends left found (by rw [role]; exact .token)
  | dispatch handler =>
    rcases answer : handler (l.lexeme hit.length) l.table s with ⟨failure | ⟨kind, value⟩, s'⟩
    · simp only [perform, lexeme, table, answer, hit?_cursor found]
      exact .error left (.handler found role answer)
    · simp only [perform, lexeme, table, answer]
      exact emit_ends left found (by rw [role]; exact .dispatch answer)

theorem step_steps (l : Lexer σ κ ν) (s : σ) : l.Steps s (l.step s).1 (l.step s).2.1 (l.step s).2.2 := by
  unfold step
  split
  · next consumed => exact .endOfInput consumed
  · next rest =>
    have left : l.remaining ≠ [] := by simp [remaining, rest]
    split
    · next missing => exact recover_steps left missing
    · next found => exact perform_steps left found

theorem step_passes {l l' : Lexer σ κ ν} {s s' : σ} (stepped : l.step s = (.again, l', s')) :
    Passes l s l' s' := by
  simpa only [stepped, Steps] using step_steps l s

theorem step_ends {l l' : Lexer σ κ ν} {s s' : σ} {outcome : Outcome κ}
    (stepped : l.step s = (.done outcome, l', s')) : Ends l s outcome l' s' := by
  simpa only [stepped, Steps] using step_steps l s

theorem step_found {l m : Lexer σ κ ν} {hit : Hit σ κ ν} (left : l.remaining ≠ []) (s : σ)
    (found : l.hit? = (some hit, m)) : l.step s = m.perform hit.length s hit.definition.role := by
  unfold step
  split
  · next consumed => exact absurd consumed left
  · rw [found]

theorem step_missing {l m : Lexer σ κ ν} (left : l.remaining ≠ []) (s : σ)
    (missing : l.hit? = (none, m)) : l.step s = m.recover s := by
  unfold step
  split
  · next consumed => exact absurd consumed left
  · rw [missing]

theorem Computes.perform {l : Lexer σ κ ν} {s s' : σ} {count : Nat} {role : Role σ κ ν} {kind : κ}
    {value : Value ν} (computed : l.Computes count s role kind value s') :
    l.perform count s role = (.done (l.emit count kind value).1, (l.emit count kind value).2, s') := by
  cases computed with
  | token => rfl
  | dispatch answer => simp only [Lexer.perform, answer]

/-- What a definition computes depends on the text at the cursor and on the table. -/
theorem Computes.transfer {l m : Lexer σ κ ν} {s s' : σ} {count : Nat} {role : Role σ κ ν} {kind : κ}
    {value : Value ν} (computed : l.Computes count s role kind value s') (cursor : m.cursor = l.cursor)
    (table : m.table = l.table) : m.Computes count s role kind value s' := by
  have lexeme : m.lexeme count = l.lexeme count := by simp only [Lexer.lexeme, cursor]
  cases computed with
  | token => exact lexeme ▸ .token
  | dispatch answer => exact .dispatch (by rw [lexeme, table, answer])

/-- What fails at the cursor is what the step reports. -/
theorem Fails.step {l m : Lexer σ κ ν} {s s' : σ} {e : ScanError} (fails : Fails l s e m s')
    (left : l.remaining ≠ []) : l.step s = (.done (.error e), m, s') := by
  obtain ⟨outcome, found⟩ := fails.hit
  obtain ⟨locations, rfl⟩ := hit?_eq found
  cases fails with
  | unmatched missing unhooked =>
    rw [step_missing left s missing]
    simp only [recover, unhooked]
    rfl
  | refused missing hooked answer =>
    rw [step_missing left s missing]
    simp only [recover, hooked, Lexer.unmatched] at answer ⊢
    simp only [answer]
    rfl
  | handler found dispatches answer =>
    rw [step_found left s found, dispatches]
    simp only [perform, lexeme] at answer ⊢
    simp only [answer]
  | dangling found computed unknown =>
    rw [step_found left s found, (computed.transfer (m := { l with locations }) rfl rfl).perform]
    simp only [emit, unknown]
  | full found computed known refused =>
    rw [step_found left s found, (computed.transfer (m := { l with locations }) rfl rfl).perform]
    simp only [emit, known, refused]
    rfl

/-- What passes over text is what the step does. -/
theorem Passes.step {l l' : Lexer σ κ ν} {s s' : σ} (passes : Passes l s l' s') : l.step s = (.again, l', s') := by
  cases passes with
  | skip left found skips =>
    rw [step_found left s found, skips]
    rfl
  | giveUp left missing hooked answer =>
    obtain ⟨locations, rfl⟩ := hit?_eq missing
    rw [step_missing left s missing]
    simp only [recover, hooked, Lexer.unmatched] at answer ⊢
    simp only [answer]

/-- What ends a scan is what the step reports. -/
theorem Ends.step {l l' : Lexer σ κ ν} {s s' : σ} {outcome : Outcome κ} (ends : Ends l s outcome l' s') :
    l.step s = (.done outcome, l', s') := by
  cases ends with
  | endOfInput consumed =>
    have ended : l.cursor.rest = [] := consumed
    simp only [Lexer.step, ended]
  | error left fails => exact fails.step left
  | token left found computed known stored =>
    obtain ⟨locations, rfl⟩ := hit?_eq found
    rw [step_found left s found, (computed.transfer (m := { l with locations }) rfl rfl).perform]
    simp only [emit, known, stored]

/-- Text is passed over any number of times. -/
inductive Passing : Lexer σ κ ν → σ → Lexer σ κ ν → σ → Prop where
  | refl {l : Lexer σ κ ν} {s : σ} : Passing l s l s
  | step {l m l' : Lexer σ κ ν} {s t s' : σ} (first : Passes l s m t) (rest : Passing m t l' s') :
      Passing l s l' s'

theorem scan_passing {l l' : Lexer σ κ ν} {s s' : σ} {outcome : Outcome κ}
    (scanned : l.scan s = (outcome, l', s')) : ∃ m t, Passing l s m t ∧ Ends m t outcome l' s' := by
  fun_induction scan l s with
  | case1 l s m t stepped ih =>
    obtain ⟨last, u, passing, ends⟩ := ih scanned
    exact ⟨last, u, .step (step_passes stepped) passing, ends⟩
  | case2 l s outcome m t stepped =>
    simp only [Prod.mk.injEq] at scanned
    obtain ⟨rfl, rfl, rfl⟩ := scanned
    exact ⟨l, s, .refl, step_ends stepped⟩

/-- What a failing call did: it passed over text, and then failed at the cursor it left. -/
theorem nextToken_error {l l' : Lexer σ κ ν} {s s' : σ} {e : ScanError}
    (failed : l.nextToken s = (.error e, l', s')) :
    ∃ m t last, Passing l s m t ∧ m.remaining ≠ [] ∧ Fails m t e last s' ∧
      l' = { last with status := .failed } := by
  rcases scanned : l.scan s with ⟨outcome, last, u⟩
  simp only [Lexer.nextToken, scanned, Prod.mk.injEq] at failed
  obtain ⟨rfl, rfl, rfl⟩ := failed
  obtain ⟨m, t, passing, ends⟩ := scan_passing scanned
  cases ends with
  | error left fails => exact ⟨m, t, last, passing, left, fails, rfl⟩

end Lexicon.Lexer

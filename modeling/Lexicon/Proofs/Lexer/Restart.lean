import Mathlib.Data.List.Forall2
import Lexicon.Proofs.Lexer.Drivers
import Lexicon.Proofs.Lexer.References

/-! A scan can be restarted between two tokens. Where handlers answer by the text alone, a lexer goes on as a fresh one
over what remains, with the numbers of tokens and the places in the source counted from where it stands. -/
namespace Lexicon
variable {σ κ ν : Type}

/-- The same stretch in a text that has `offset` more in front. -/
def Span.shift (offset : Nat) (span : Span) : Span := ⟨offset + span.start, offset + span.stop⟩

/-- A stretch of what is left behind `offset` characters. -/
theorem Span.slice_drop (offset : Nat) (text : List Char) (span : Span) :
    span.slice (text.drop offset) = (span.shift offset).slice text := by
  rw [Span.slice, Span.slice, Span.shift, List.drop_drop, Nat.add_sub_add_left]

def Entry.shift (chars bytes : Nat) (e : Entry ν) : Entry ν := ⟨e.value, e.range.shift chars, e.bytes.shift bytes⟩

def ScanError.shift (chars : Nat) : ScanError → ScanError
  | unmatched position remaining => .unmatched (chars + position) remaining
  | handler range failure => .handler (range.shift chars) failure
  | dangling range target => .dangling (range.shift chars) target
  | tooManyTokens position => .tooManyTokens (chars + position)

namespace Cursor

def shift (chars bytes : Nat) (c : Cursor) : Cursor := ⟨c.rest, chars + c.position, bytes + c.bytePosition⟩

theorem shift_advance (chars bytes count : Nat) (c : Cursor) :
    (c.shift chars bytes).advance count = (c.advance count).shift chars bytes := by
  simp only [shift, advance, Nat.add_assoc]

theorem shift_range (chars bytes count : Nat) (c : Cursor) :
    (c.shift chars bytes).range count = (c.range count).shift chars := by
  simp only [range, shift_advance]
  rfl

theorem shift_bytes (chars bytes count : Nat) (c : Cursor) :
    (c.shift chars bytes).bytes count = (c.bytes count).shift bytes := by
  simp only [Cursor.bytes, shift_advance]
  rfl

end Cursor

/-- Handlers answer by the text alone, and never with a reference. -/
def Registry.Contextless (r : Registry σ κ ν) : Prop :=
  ∀ d ∈ r.definitions, ∀ handler, d.role = .dispatch handler → ∃ answer : String → Except Failure (κ × Value ν),
    (∀ text table s, (handler text table s).1 = answer text) ∧ ∀ text kind target, answer text ≠ .ok (kind, .ref target)

/-- Without a hook, nothing depends on the shared state. -/
theorem Registry.Contextless.stateless {l : Lexer σ κ ν} (contextless : l.registry.Contextless)
    (unhooked : l.hook = none) : l.Stateless where
  handlers := by
    intro d handler member dispatches text table s t
    obtain ⟨answer, answers, -⟩ := contextless d member handler dispatches
    rw [answers, answers]
  hook := by
    intro hook hooked
    simp [unhooked] at hooked

namespace Lexer

theorem dangling?_plain {table : ValueTable ν} {value : Value ν} (plain : ∀ target, value ≠ .ref target) :
    dangling? table value = none :=
  dangling?_eq_none.mpr fun target same => absurd same (plain target)

/-- A report for a source that has tokens and characters in front of the one that is reported on. -/
inductive Shifted (tokens chars : Nat) : Outcome κ → Outcome κ → Prop where
  | endOfInput : Shifted tokens chars (.ok none) (.ok none)
  | token {kind : κ} {id id' : TokenId} (number : id'.number = tokens + id.number) :
      Shifted tokens chars (.ok (some (kind, id))) (.ok (some (kind, id')))
  | error {e : ScanError} : Shifted tokens chars (.error e) (.error (e.shift chars))

/-- The lexer `l` stands where `f` does, but behind entries, characters and bytes that `f` has not seen. -/
structure Resumes (before : List (Entry ν)) (chars bytes : Nat) (l f : Lexer σ κ ν) : Prop where
  registry : l.registry = f.registry
  unhooked : l.hook = none
  alone : f.hook = none
  cursor : l.cursor = f.cursor.shift chars bytes
  entries : l.table.entries.toList = before ++ f.table.entries.toList.map (Entry.shift chars bytes)

variable {before : List (Entry ν)} {chars bytes : Nat} {l f g : Lexer σ κ ν} {t u v : σ}

namespace Resumes

theorem size (resumes : Resumes before chars bytes l f) : l.table.size = before.length + f.table.size := by
  have length := congrArg List.length resumes.entries
  simpa [ValueTable.size] using length

theorem rest (resumes : Resumes before chars bytes l f) : l.cursor.rest = f.cursor.rest := by
  rw [resumes.cursor]
  rfl

theorem left (resumes : Resumes before chars bytes l f) (left : f.remaining ≠ []) : l.remaining ≠ [] :=
  fun ended => left (resumes.rest.symm.trans ended)

theorem range (resumes : Resumes before chars bytes l f) (count : Nat) :
    l.cursor.range count = (f.cursor.range count).shift chars := by
  rw [resumes.cursor, Cursor.shift_range]

theorem status (resumes : Resumes before chars bytes l f) (first second : Status) :
    Resumes before chars bytes { l with status := first } { f with status := second } :=
  ⟨resumes.registry, resumes.unhooked, resumes.alone, resumes.cursor, resumes.entries⟩

/-- The matcher sees what remains and nothing in front of it. -/
theorem hit? (resumes : Resumes before chars bytes l f) {hit : Option (Hit σ κ ν)} (found : f.hit? = (hit, g)) :
    ∃ m, l.hit? = (hit, m) ∧ Resumes before chars bytes m g := by
  have same : l.hit?.1 = f.hit?.1 := by
    simp only [Lexer.hit?]
    rw [resumes.registry, resumes.rest, f.registry.matchStart_eq l.locations f.locations]
  refine ⟨l.hit?.2, ?_, ?_⟩
  · rw [found] at same
    exact Prod.ext same rfl
  · obtain ⟨locations, rfl⟩ := hit?_eq found
    exact ⟨resumes.registry, resumes.unhooked, resumes.alone, resumes.cursor, resumes.entries⟩

theorem lexeme (resumes : Resumes before chars bytes l f) (count : Nat) : l.lexeme count = f.lexeme count := by
  simp only [Lexer.lexeme, resumes.rest]

theorem computes (resumes : Resumes before chars bytes l f) (contextless : f.registry.Contextless)
    {d : Definition σ κ ν} (member : d ∈ f.registry.definitions) {count : Nat} {kind : κ} {value : Value ν}
    (computed : f.Computes count u d.role kind value v) (t : σ) :
    (∀ target, value ≠ .ref target) ∧ ∃ t', l.Computes count t d.role kind value t' := by
  generalize role : d.role = given at computed
  cases computed with
  | token =>
    refine ⟨by simp, t, ?_⟩
    rw [← resumes.lexeme]
    exact .token
  | @dispatch handler _ _ _ answer =>
    obtain ⟨reply, replies, plain⟩ := contextless d member handler role
    have known : reply (f.lexeme count) = .ok (kind, value) := by rw [← replies _ f.table u, answer]
    rcases repeated : handler (l.lexeme count) l.table t with ⟨result, t'⟩
    have same : result = .ok (kind, value) := by
      rw [← known, ← resumes.lexeme, ← replies _ l.table t, repeated]
    constructor
    · rintro target rfl
      exact plain _ _ _ known
    · exact ⟨t', .dispatch (repeated.trans (congrArg (·, t') same))⟩

/-- Text that is passed over afresh is passed over here. -/
theorem passes (resumes : Resumes before chars bytes l f) (passes : Passes f u g v) (t : σ) :
    ∃ m, Passes l t m t ∧ Resumes before chars bytes m g := by
  cases passes with
  | @skip _ _ hit left found skips =>
    obtain ⟨m, same, behind⟩ := resumes.hit? found
    refine ⟨_, .skip (resumes.left left) same skips, ?_⟩
    refine ⟨behind.registry, behind.unhooked, behind.alone, ?_, behind.entries⟩
    change m.cursor.advance _ = (Cursor.advance _ _).shift chars bytes
    rw [behind.cursor, Cursor.shift_advance]
  | giveUp left missing hooked answer => simp [resumes.alone] at hooked

theorem passing (resumes : Resumes before chars bytes l f) (passing : Passing f u g v) (t : σ) :
    ∃ m, Passing l t m t ∧ Resumes before chars bytes m g := by
  induction passing generalizing l with
  | refl => exact ⟨l, .refl, resumes⟩
  | step first _ ih =>
    obtain ⟨m, here, further⟩ := resumes.passes first t
    obtain ⟨last, rest, behind⟩ := ih further
    exact ⟨last, .step here rest, behind⟩

theorem append (resumes : Resumes before chars bytes l f) (count : Nat) {value : Value ν} {id : TokenId}
    {table : ValueTable ν} (room : before.length + table.size < 0x100000000)
    (stored : f.table.append value (f.cursor.range count) (f.cursor.bytes count) = .ok (id, table)) :
    ∃ id' table', l.table.append value (l.cursor.range count) (l.cursor.bytes count) = .ok (id', table') ∧
      id'.number = before.length + id.number ∧
      table'.entries.toList = before ++ table.entries.toList.map (Entry.shift chars bytes) := by
  obtain ⟨number, rfl⟩ := ValueTable.append_ok stored
  have more : l.table.size + 1 < 0x100000000 := by
    simp only [ValueTable.size, Array.size_push] at room
    rw [resumes.size, ValueTable.size]
    omega
  obtain ⟨⟨id', table'⟩, appended⟩ := l.append_of_room more count value
  obtain ⟨further, rfl⟩ := ValueTable.append_ok appended
  refine ⟨id', _, appended, ?_, ?_⟩
  · rw [further, number, resumes.size, Nat.add_assoc]
  · simp only [Array.toList_push, resumes.entries, List.map_append, List.map_singleton, List.append_assoc]
    rw [resumes.cursor, Cursor.shift_range, Cursor.shift_bytes]
    rfl

/-- Where numbers are used up afresh, they are used up here. -/
theorem append_refused (resumes : Resumes before chars bytes l f) (count : Nat) (value : Value ν)
    (full : 0x100000000 ≤ before.length + f.table.size + 1) :
    ∃ refusal, l.table.append value (l.cursor.range count) (l.cursor.bytes count) = .error refusal := by
  rcases appended : l.table.append value (l.cursor.range count) (l.cursor.bytes count) with refusal | ⟨id, table⟩
  · exact ⟨refusal, rfl⟩
  · obtain ⟨number, -⟩ := ValueTable.append_ok appended
    have small := id.small
    rw [number, resumes.size] at small
    omega

theorem fails (resumes : Resumes before chars bytes l f) (contextless : f.registry.Contextless) {e : ScanError}
    (fails : Fails f u e g v) (t : σ) :
    ∃ m t', Fails l t (e.shift chars) m t' ∧ Resumes before chars bytes m g := by
  cases fails with
  | unmatched missing unhooked =>
    obtain ⟨m, same, behind⟩ := resumes.hit? missing
    have told : Fails l t (.unmatched l.position (String.ofList l.remaining)) m t := .unmatched same resumes.unhooked
    rw [Lexer.position, Lexer.remaining, resumes.cursor] at told
    exact ⟨m, t, told, behind⟩
  | refused missing hooked answer => simp [resumes.alone] at hooked
  | @handler _ _ _ hit handler failure found dispatches answer =>
    obtain ⟨m, same, behind⟩ := resumes.hit? found
    obtain ⟨reply, replies, -⟩ := contextless _ (hit?_mem found) handler dispatches
    rcases repeated : handler (l.lexeme hit.length) l.table t with ⟨result, t'⟩
    have failed : result = .error failure := by
      have again := replies (l.lexeme hit.length) l.table t
      rw [repeated, resumes.lexeme, ← replies _ f.table u, answer] at again
      exact again
    have told := Fails.handler same dispatches (repeated.trans (congrArg (·, t') failed))
    rw [resumes.range] at told
    exact ⟨m, t', told, behind⟩
  | dangling found computed unknown =>
    obtain ⟨plain, -⟩ := resumes.computes contextless (hit?_mem found) computed t
    obtain ⟨rfl, -⟩ := dangling?_eq_some.mp unknown
    exact absurd rfl (plain _)
  | @full _ _ _ hit kind value refusal found computed known refused =>
    obtain ⟨m, same, behind⟩ := resumes.hit? found
    obtain ⟨plain, t', computed⟩ := resumes.computes contextless (hit?_mem found) computed t
    have used : 0x100000000 ≤ before.length + f.table.size + 1 := by
      apply Nat.le_of_not_lt
      intro room
      obtain ⟨stored, appended⟩ := f.append_of_room (by omega) hit.length value
      simp [refused] at appended
    obtain ⟨refusal, refused⟩ := resumes.append_refused hit.length value used
    have told := Fails.full same computed (dangling?_plain plain) refused
    rw [Lexer.position, resumes.cursor] at told
    exact ⟨m, t', told, behind⟩

/-- A scan that ends afresh ends here, with the report shifted, while there are numbers for its token. -/
theorem ends (resumes : Resumes before chars bytes l f) (contextless : f.registry.Contextless) {outcome : Outcome κ}
    (ends : Ends f u outcome g v) (room : before.length + g.table.size < 0x100000000) (t : σ) :
    ∃ outcome' m t', Ends l t outcome' m t' ∧ Shifted before.length chars outcome outcome' ∧
      Resumes before chars bytes m g := by
  cases ends with
  | endOfInput consumed => exact ⟨_, l, t, .endOfInput (resumes.rest.trans consumed), .endOfInput, resumes⟩
  | error left fails =>
    obtain ⟨m, t', fails, behind⟩ := resumes.fails contextless fails t
    exact ⟨_, m, t', .error (resumes.left left) fails, .error, behind⟩
  | @token _ _ _ hit kind value id table left found computed known stored =>
    obtain ⟨m, same, behind⟩ := resumes.hit? found
    obtain ⟨plain, t', computed⟩ := resumes.computes contextless (hit?_mem found) computed t
    obtain ⟨id', table', appended, number, entries⟩ := resumes.append hit.length room stored
    refine ⟨_, _, t', .token (resumes.left left) same computed (dangling?_plain plain) appended, .token number, ?_⟩
    refine ⟨behind.registry, behind.unhooked, behind.alone, ?_, entries⟩
    change m.cursor.advance _ = (Cursor.advance _ _).shift chars bytes
    rw [behind.cursor, Cursor.shift_advance]

theorem nextToken (resumes : Resumes before chars bytes l f) (contextless : f.registry.Contextless)
    (room : before.length + (f.nextToken u).2.1.table.size < 0x100000000) (t : σ) :
    Shifted before.length chars (f.nextToken u).1 (l.nextToken t).1 ∧
      Resumes before chars bytes (l.nextToken t).2.1 (f.nextToken u).2.1 := by
  rcases scanned : f.scan u with ⟨outcome, g, v⟩
  obtain ⟨m, w, passing, ends⟩ := scan_passing scanned
  simp only [Lexer.nextToken, scanned] at room ⊢
  obtain ⟨m', here, resumed⟩ := resumes.passing passing t
  have still : m.registry = f.registry := passing.frame.1
  obtain ⟨outcome', last, t', ended, shifted, behind⟩ := resumed.ends (still ▸ contextless) ends room t
  rw [here.scan, scan_of_done ended.step]
  exact ⟨shifted, behind.status _ _⟩

end Resumes

/-- What a table holds is not taken from it again. -/
theorem kept_size (size : Nat) : Kept fun l : Lexer σ κ ν => size ≤ l.table.size where
  passes := by
    intro l l' s s' passes held
    exact passes.frame.2.2 ▸ held
  ends := by
    intro l l' s s' outcome ends held
    cases ends with
    | endOfInput => exact held
    | error left fails =>
      obtain ⟨hit, found⟩ := fails.hit
      obtain ⟨locations, rfl⟩ := hit?_eq found
      exact held
    | token left found computed known stored =>
      obtain ⟨-, rfl⟩ := ValueTable.append_ok stored
      simp only [ValueTable.size, Array.size_push] at held ⊢
      omega
  status := id

theorem nextToken_registry (l : Lexer σ κ ν) (s : σ) : (l.nextToken s).2.1.registry = l.registry :=
  ((kept_frame l.registry l.hook).nextToken l s ⟨rfl, rfl⟩).1

/-- The reports of a number of scans. -/
def scans (l : Lexer σ κ ν) (s : σ) (count : Nat) : List (Outcome κ) :=
  (l.run s (List.replicate count .nextToken)).1.map Report.outcome

/-- The lexer behind a number of scans. -/
def afterScans (l : Lexer σ κ ν) (s : σ) (count : Nat) : Lexer σ κ ν :=
  (l.run s (List.replicate count .nextToken)).2.1

theorem scans_succ (l : Lexer σ κ ν) (s : σ) (count : Nat) :
    l.scans s (count + 1) = (l.nextToken s).1 :: (l.nextToken s).2.1.scans (l.nextToken s).2.2 count := rfl

theorem afterScans_succ (l : Lexer σ κ ν) (s : σ) (count : Nat) :
    l.afterScans s (count + 1) = (l.nextToken s).2.1.afterScans (l.nextToken s).2.2 count := rfl

theorem Resumes.scans (count : Nat) (resumes : Resumes before chars bytes l f) (contextless : f.registry.Contextless)
    (room : before.length + (f.afterScans u count).table.size < 0x100000000) (t : σ) :
    List.Forall₂ (Shifted before.length chars) (f.scans u count) (l.scans t count) ∧
      Resumes before chars bytes (l.afterScans t count) (f.afterScans u count) := by
  induction count generalizing l f t u with
  | zero => exact ⟨.nil, resumes⟩
  | succ count ih =>
    rw [scans_succ, scans_succ, afterScans_succ, afterScans_succ]
    rw [afterScans_succ] at room
    have grown := (kept_size (f.nextToken u).2.1.table.size).run (List.replicate count .nextToken) _
      (f.nextToken u).2.2 (Nat.le_refl _)
    change _ ≤ ((f.nextToken u).2.1.afterScans (f.nextToken u).2.2 count).table.size at grown
    have fewer : before.length + (f.nextToken u).2.1.table.size < 0x100000000 := by omega
    obtain ⟨first, further⟩ := resumes.nextToken contextless fewer t
    obtain ⟨rest, behind⟩ := ih further (f.nextToken_registry u ▸ contextless) room (l.nextToken t).2.2
    exact ⟨.cons first rest, behind⟩

/-- A token for which there is no number is not stored, and every scan from then on says so at its place. -/
theorem Resumes.exhausted (resumes : Resumes before chars bytes l f) (contextless : f.registry.Contextless)
    {id : TokenId} (last : before.length + id.number = 0x100000000) (absent : f.table.contains id = false)
    (stored : (f.nextToken u).2.1.table.contains id = true) :
    ∃ range, (f.nextToken u).2.1.table.range? id = some range ∧ ∀ t, ∃ m t',
      l.nextToken t = (.error (.tooManyTokens (chars + range.start)), m, t') ∧
        ∀ w, ∃ w', m.nextToken w = (.error (.tooManyTokens (chars + range.start)), m, w') := by
  rcases scanned : f.scan u with ⟨outcome, g, v⟩
  obtain ⟨m, w, passing, ends⟩ := scan_passing scanned
  have same : m.table = f.table := passing.frame.2.2
  have still : m.registry = f.registry := passing.frame.1
  rw [← same] at absent
  simp only [Lexer.nextToken, scanned] at stored ⊢
  cases ends with
  | endOfInput => simp [absent] at stored
  | error left fails =>
    obtain ⟨hit, found⟩ := fails.hit
    obtain ⟨locations, rfl⟩ := hit?_eq found
    simp [absent] at stored
  | @token _ n _ hit kind value number table left found computed known appended =>
    obtain ⟨-, rfl⟩ := ValueTable.append_ok appended
    have size : id.number = m.table.entries.size + 1 := by
      rw [Bool.eq_false_iff, ne_eq, ValueTable.contains_iff, ValueTable.size] at absent
      rw [ValueTable.contains_iff, ValueTable.size, Array.size_push] at stored
      omega
    refine ⟨m.cursor.range hit.length, ?_, fun t => ?_⟩
    · simp [ValueTable.range?, ValueTable.entry?, size]
    · obtain ⟨m', here, resumed⟩ := resumes.passing passing t
      obtain ⟨n', found', behind⟩ := resumed.hit? found
      obtain ⟨plain, t', computed'⟩ := resumed.computes (still ▸ contextless) (hit?_mem found) computed t
      have full : 0x100000000 ≤ before.length + m.table.size + 1 := by
        rw [ValueTable.size]
        omega
      obtain ⟨refusal, refused⟩ := resumed.append_refused hit.length value full
      have fails := Fails.full found' computed' (dangling?_plain plain) refused
      have place : m'.position = chars + (m.cursor.range hit.length).start := by
        rw [Lexer.position, resumed.cursor]
        rfl
      rw [place] at fails
      have ahead : m'.remaining ≠ [] := resumed.left left
      have stateless := (resumed.registry.trans still ▸ contextless).stateless resumed.unhooked
      refine ⟨{ n' with status := .failed }, t', ?_, fun later => ?_⟩
      · rw [here.scan]
        exact fails.nextToken ahead
      · obtain ⟨after, again⟩ := fails.again stateless .failed later
        exact ⟨after, again.nextToken fun consumed => ahead ((hit?_remaining found').symm.trans consumed)⟩

/-- From the token on for which there is no number, every scan says so. -/
theorem Resumes.limit (count : Nat) (resumes : Resumes before chars bytes l f)
    (contextless : f.registry.Contextless) {id : TokenId} (last : before.length + id.number = 0x100000000)
    (absent : f.table.contains id = false) {range : Span}
    (stored : (f.afterScans u count).table.range? id = some range) (t : σ) :
    (l.scans t count).getLast? = some (.error (.tooManyTokens (chars + range.start))) := by
  obtain ⟨e, found, rfl⟩ := Option.map_eq_some_iff.mp stored
  induction count generalizing l f t u with
  | zero =>
    have known : f.table.contains id = true :=
      ValueTable.contains_of_value? (congrArg (Option.map Entry.value) found)
    exact absurd (absent.symm.trans known) Bool.false_ne_true
  | succ count ih =>
    rw [afterScans_succ] at found stored
    rw [scans_succ]
    cases known : (f.nextToken u).2.1.table.contains id with
    | true =>
      obtain ⟨place, here, failing⟩ := resumes.exhausted contextless last absent known
      obtain ⟨first, entry, rfl⟩ := Option.map_eq_some_iff.mp here
      have kept := (kept_entry id first).run (List.replicate count .nextToken) _ (f.nextToken u).2.2 entry
      obtain rfl : first = e := Option.some.inj (kept.symm.trans found)
      obtain ⟨m, t', failed, again⟩ := failing t
      have rest := (run_replicate_error again count t').1
      rw [failed, Lexer.scans, rest, List.map_replicate]
      change (List.replicate (count + 1) _).getLast? = _
      rw [List.getLast?_replicate, if_neg (Nat.succ_ne_zero count)]
    | false =>
      have room : before.length + (f.nextToken u).2.1.table.size < 0x100000000 := by
        rw [Bool.eq_false_iff, ne_eq, ValueTable.contains_iff] at known
        omega
      obtain ⟨-, further⟩ := resumes.nextToken contextless room t
      rw [List.getLast?_cons, ih further (f.nextToken_registry u ▸ contextless) known (l.nextToken t).2.2 found stored]
      rfl

/-- The entry of a token is that of the token as many numbers before, shifted. -/
theorem Resumes.entry (resumes : Resumes before chars bytes l f) {id id' : TokenId}
    (number : id'.number = before.length + id.number) :
    l.table.entry? id' = (f.table.entry? id).map (Entry.shift chars bytes) := by
  have positive := id.positive
  rw [ValueTable.entry?, ValueTable.entry?, ← Array.getElem?_toList, ← Array.getElem?_toList, resumes.entries,
    List.getElem?_append_right (by omega), List.getElem?_map]
  congr 2
  omega

/-- The text of a token is that of the token as many numbers before. -/
theorem Resumes.text (resumes : Resumes before chars bytes l f) (here : l.Aligned) (there : f.Aligned)
    (source : f.source = l.source.drop chars) {id id' : TokenId} (number : id'.number = before.length + id.number) :
    l.text? id' = f.text? id := by
  have entry := resumes.entry number
  cases found : f.table.entry? id with
  | none =>
    rw [found] at entry
    simp [text?, ValueTable.bytes?, found, entry]
  | some e =>
    rw [found, Option.map_some] at entry
    rw [here.text_of_entry entry, there.text_of_entry found, source, Span.slice_drop]
    rfl

/-- A scan can be taken up again wherever a lexer without a hook stands, if handlers answer by the text alone and never
with a reference. What remains is a slice of the source by bytes, and the reports of further scans are those of a fresh
lexer over it, call by call, with the numbers of tokens and the places counted from where the lexer stands. So are the
cursor and what is stored for each token. This holds up to the token that the fresh lexer numbers and the lexer cannot,
since the numbers are used up by those before: from there on, each scan says so. -/
theorem restart (registry : Registry σ κ ν) (contextless : registry.Contextless) (source : List Char)
    (calls : List Call) (s : σ) :
    let l := ((ofSource registry none source).run s calls).2.1
    ∃ rest, sliceBytes? source ⟨l.bytePosition, utf8Length source⟩ = some rest ∧
      ∀ (t u : σ) (count : Nat),
        let fresh := (ofSource registry none rest).afterScans u count
        (l.table.size + fresh.table.size < 0x100000000 →
          List.Forall₂ (Shifted l.table.size l.position) ((ofSource registry none rest).scans u count)
              (l.scans t count) ∧
            (l.afterScans t count).cursor = fresh.cursor.shift l.position l.bytePosition ∧
            ∀ id id' : TokenId, id'.number = l.table.size + id.number →
              (l.afterScans t count).table.entry? id' =
                  (fresh.table.entry? id).map (Entry.shift l.position l.bytePosition) ∧
                (l.afterScans t count).text? id' = fresh.text? id) ∧
          ∀ id range, l.table.size + id.number = 0x100000000 → fresh.table.range? id = some range →
            (l.scans t count).getLast? = some (.error (.tooManyTokens (l.position + range.start))) := by
  intro l
  have aligned : l.Aligned := kept_aligned.run calls _ s (aligned_ofSource registry none source)
  have same : l.source = source := (kept_source source).run calls _ s rfl
  obtain ⟨still, unhooked⟩ := (kept_frame registry none).run calls (ofSource registry none source) s ⟨rfl, rfl⟩
  refine ⟨l.remaining, same ▸ aligned.covered.slice_remaining, fun t u count => ?_⟩
  have resumes : Resumes l.table.entries.toList l.position l.bytePosition l (ofSource registry none l.remaining) :=
    ⟨still, unhooked, rfl, rfl, by simp [ofSource, ValueTable.empty]⟩
  constructor
  · intro room
    obtain ⟨reports, behind⟩ := resumes.scans count contextless room t
    refine ⟨reports, behind.cursor, fun id id' number => ⟨behind.entry number, ?_⟩⟩
    have here := kept_aligned.run (List.replicate count .nextToken) l t aligned
    have there := kept_aligned.run (List.replicate count .nextToken) _ u
      (aligned_ofSource registry none l.remaining)
    have left := (kept_source l.remaining).run (List.replicate count .nextToken) (ofSource registry none l.remaining)
      u rfl
    have whole := (kept_source l.source).run (List.replicate count .nextToken) l t rfl
    refine behind.text here there ?_ number
    exact (left.trans aligned.covered.rest).trans (congrArg _ whole.symm)
  · intro id range last stored
    have absent : (ofSource registry none l.remaining).table.contains id = false := by
      simpa [ofSource, ValueTable.empty, ValueTable.contains, ValueTable.size] using Nat.ne_of_gt id.positive
    exact resumes.limit count contextless last absent stored t

/-- Blanks are passed over, and the handler of a letter of two bytes stores it. -/
def accentedDefinitions : List (Definition Unit String Int) :=
  [⟨.literal " ", .skip⟩, ⟨.literal "é", .dispatch (.stored "E")⟩]

theorem restart_behind_token :
    ∃ r, Registry.build accentedDefinitions = .ok r ∧ r.Contextless ∧
      ∃ l, l = ((ofSource r none ['é', ' ', 'é']).run () [.nextToken]).2.1 ∧
        l.table.size + ((ofSource r none [' ', 'é']).afterScans () 2).table.size < 0x100000000 ∧
        List.Forall₂ (Shifted 1 1) ((ofSource r none [' ', 'é']).scans () 2) (l.scans () 2) ∧
        (l.afterScans () 2).cursor = ((ofSource r none [' ', 'é']).afterScans () 2).cursor.shift 1 2 ∧
        (l.afterScans () 2).text? ⟨2, by decide, by decide⟩ =
          ((ofSource r none [' ', 'é']).afterScans () 2).text? firstToken := by
  have ran : (Registry.build accentedDefinitions).toOption.map (fun r =>
      let l := ((ofSource r none ['é', ' ', 'é']).run () [.nextToken]).2.1
      (l.table.size, l.position, l.bytePosition, ((ofSource r none [' ', 'é']).afterScans () 2).table.size)) =
        some (1, 1, 2, 1) := by decide +kernel
  rcases built : Registry.build accentedDefinitions with _ | r
  · rw [built] at ran
    simp [Except.toOption] at ran
  · rw [built] at ran
    simp only [Except.toOption, Option.map_some, Option.some.injEq, Prod.mk.injEq] at ran
    obtain ⟨size, position, bytePosition, further⟩ := ran
    have contextless : r.Contextless := by
      intro d member handler dispatches
      have listed := Registry.build_definitions built ▸ member
      simp only [accentedDefinitions, List.mem_cons, List.not_mem_nil, or_false] at listed
      rcases listed with rfl | rfl <;> cases dispatches
      exact ⟨fun text => .ok ("E", .text text), fun _ _ _ => rfl, by simp⟩
    obtain ⟨rest, sliced, same⟩ := restart r contextless ['é', ' ', 'é'] [.nextToken] ()
    rw [bytePosition] at sliced
    have left : sliceBytes? ['é', ' ', 'é'] ⟨2, 5⟩ = some [' ', 'é'] := by decide +kernel
    obtain rfl : rest = [' ', 'é'] := Option.some.inj (sliced.symm.trans left)
    have room : ((ofSource r none ['é', ' ', 'é']).run () [.nextToken]).2.1.table.size +
        ((ofSource r none [' ', 'é']).afterScans () 2).table.size < 0x100000000 := by omega
    obtain ⟨reports, cursor, stored⟩ := (same () () 2).1 room
    rw [size, position] at reports
    rw [position, bytePosition] at cursor
    refine ⟨r, rfl, contextless, _, rfl, room, reports, cursor, ?_⟩
    exact (stored firstToken ⟨2, by decide, by decide⟩ (by rw [size]; rfl)).2

end Lexer
end Lexicon

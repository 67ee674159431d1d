import Lexicon.Listing
import Lexicon.Proofs.Lexer.Alignment
import Lexicon.Proofs.Lexer.Lifecycle

/-! The drivers of a lexer make the same scans: one call after another, up to the end of the source or the first
error. Each of them reports the tokens of these scans in its own way. -/
namespace Lexicon.Lexer
open ValueTable (entry?_of_contains)
variable {σ κ ν : Type}

/-- The tokens of one scan after another, and the error that stops them if it is not the end of the source. -/
inductive Pulls : Lexer σ κ ν → σ → List (κ × TokenId) → Option ScanError → Lexer σ κ ν → σ → Prop where
  | endOfInput {l l' : Lexer σ κ ν} {s s' : σ} (scanned : l.nextToken s = (.ok none, l', s')) :
      Pulls l s [] none l' s'
  | error {l l' : Lexer σ κ ν} {s s' : σ} {e : ScanError} (scanned : l.nextToken s = (.error e, l', s')) :
      Pulls l s [] (some e) l' s'
  | token {l m l' : Lexer σ κ ν} {s t s' : σ} {token : κ × TokenId} {tokens : List (κ × TokenId)}
      {stop : Option ScanError} (scanned : l.nextToken s = (.ok (some token), m, t))
      (rest : Pulls m t tokens stop l' s') : Pulls l s (token :: tokens) stop l' s'

/-- Scanning on and on comes to a stop. -/
theorem exists_pulls (l : Lexer σ κ ν) (s : σ) : ∃ tokens stop l' s', Pulls l s tokens stop l' s' := by
  rcases scanned : l.nextToken s with ⟨e | _ | token, m, t⟩
  · exact ⟨[], some e, m, t, .error scanned⟩
  · exact ⟨[], none, m, t, .endOfInput scanned⟩
  · -- a token is not empty, so less of the source is left behind it
    obtain ⟨tokens, stop, l', s', rest⟩ := exists_pulls m t
    exact ⟨token :: tokens, stop, l', s', .token scanned rest⟩
termination_by l.cursor.rest.length
decreasing_by exact nextToken_token_shorter scanned

theorem Kept.pulls {P : Lexer σ κ ν → Prop} (kept : Kept P) {l l' : Lexer σ κ ν} {s s' : σ}
    {tokens : List (κ × TokenId)} {stop : Option ScanError} (pulls : Pulls l s tokens stop l' s') (holds : P l) :
    P l' := by
  induction pulls with
  | @endOfInput l _ s _ scanned | @error l _ s _ _ scanned =>
    have after := kept.nextToken l s holds
    rwa [scanned] at after
  | @token l _ _ s _ _ _ _ _ scanned _ ih =>
    have after := kept.nextToken l s holds
    rw [scanned] at after
    exact ih after

/-- What is stored stays stored. -/
theorem kept_entry (id : TokenId) (e : Entry ν) : Kept fun l : Lexer σ κ ν => l.table.entry? id = some e where
  passes := by
    intro l l' s s' passes stored
    obtain ⟨-, -, table⟩ := passes.frame
    exact table ▸ stored
  ends := by
    intro l l' s s' outcome ends stored
    cases ends with
    | endOfInput => exact stored
    | error left fails =>
      obtain ⟨hit, found⟩ := fails.hit
      obtain ⟨locations, rfl⟩ := hit?_eq found
      exact stored
    | token left found computed known appended =>
      obtain ⟨-, rfl⟩ := ValueTable.append_ok appended
      obtain ⟨inside, same⟩ := Array.getElem?_eq_some_iff.mp stored
      change (l.table.entries.push _)[id.number - 1]? = some e
      rw [Array.getElem?_push_lt inside, same]
  status := fun stored => stored

/-- The token that a call reports is stored. -/
theorem nextToken_stored {l l' : Lexer σ κ ν} {s s' : σ} {kind : κ} {id : TokenId}
    (scanned : l.nextToken s = (.ok (some (kind, id)), l', s')) : ∃ e, l'.table.entry? id = some e := by
  rcases ran : l.scan s with ⟨outcome, last, t⟩
  simp only [nextToken, ran, Prod.mk.injEq] at scanned
  obtain ⟨rfl, rfl, rfl⟩ := scanned
  obtain ⟨m, u, -, ends⟩ := scan_passing ran
  cases ends with
  | token left found computed known stored =>
    obtain ⟨number, rfl⟩ := ValueTable.append_ok stored
    refine entry?_of_contains ?_
    simp [ValueTable.contains, ValueTable.size, number]

/-- All tokens that were given are stored in the end. -/
theorem Pulls.stored {l l' : Lexer σ κ ν} {s s' : σ} {tokens : List (κ × TokenId)} {stop : Option ScanError}
    (pulls : Pulls l s tokens stop l' s') : ∀ token ∈ tokens, ∃ e, l'.table.entry? token.2 = some e := by
  induction pulls with
  | endOfInput | error => simp
  | token scanned rest ih =>
    intro token member
    rcases List.mem_cons.mp member with rfl | later
    · obtain ⟨e, found⟩ := nextToken_stored scanned
      exact ⟨e, (kept_entry token.2 e).pulls rest found⟩
    · exact ih token later

/-- A token with the stretches that are stored for it. -/
def collected (l : Lexer σ κ ν) (token : κ × TokenId) : Token κ where
  kind := token.1
  id := token.2
  range := (l.table.range? token.2).getD default
  bytes := (l.table.bytes? token.2).getD default

/-- The stretches of a token can be looked up at once or later. -/
theorem Pulls.collected {l l' : Lexer σ κ ν} {s s' : σ} {tokens : List (κ × TokenId)} {stop : Option ScanError}
    (pulls : Pulls l s tokens stop l' s') {token : κ × TokenId} {e : Entry ν}
    (found : l.table.entry? token.2 = some e) : l'.collected token = l.collected token := by
  have still := (kept_entry token.2 e).pulls pulls found
  simp only [Lexer.collected, ValueTable.range?, ValueTable.bytes?, found, still]

/-- The stretches of a collected token are the stored ones. -/
theorem Pulls.collected_stored {l l' : Lexer σ κ ν} {s s' : σ} {tokens : List (κ × TokenId)} {stop : Option ScanError}
    (pulls : Pulls l s tokens stop l' s') {token : κ × TokenId} (member : token ∈ tokens) :
    l'.table.range? token.2 = some (l'.collected token).range ∧
      l'.table.bytes? token.2 = some (l'.collected token).bytes := by
  obtain ⟨e, found⟩ := pulls.stored token member
  simp only [Lexer.collected, ValueTable.range?, ValueTable.bytes?, found, Option.map_some, Option.getD_some,
    and_self]

/-- The text of a stored token is there. -/
theorem Aligned.text_of_entry {l : Lexer σ κ ν} (aligned : l.Aligned) {id : TokenId} {e : Entry ν}
    (found : l.table.entry? id = some e) : l.text? id = some (e.range.slice l.source) := by
  have member := entry_mem found
  obtain ⟨nonempty, before⟩ := aligned.covered.stored.2 e member
  have inside : e.range.stop ≤ l.source.length := Nat.le_trans before aligned.covered.within
  simp only [text?, ValueTable.bytes?, found, Option.map_some, Option.bind_some, aligned.bytes e member]
  exact sliceBytes?_take (Nat.le_of_lt nonempty) inside

theorem tokenize_eq (l : Lexer σ κ ν) (s : σ) : l.tokenize s =
    match l.nextToken s with
    | (.error e, l', s') => (.error e, l', s')
    | (.ok none, l', s') => (.ok [], l', s')
    | (.ok (some token), l', s') =>
      match l'.tokenize s' with
      | (.error e, last, s'') => (.error e, last, s'')
      | (.ok tokens, last, s'') => (.ok (l'.collected token :: tokens), last, s'') := by
  rw [tokenize]
  split <;> next given => rw [given] <;> rfl

theorem Pulls.tokenize {l l' : Lexer σ κ ν} {s s' : σ} {tokens : List (κ × TokenId)} {stop : Option ScanError}
    (pulls : Pulls l s tokens stop l' s') :
    l.tokenize s = (stop.elim (.ok (tokens.map l'.collected)) .error, l', s') := by
  induction pulls with
  | endOfInput scanned | error scanned => simp only [tokenize_eq, scanned, Option.elim, List.map_nil]
  | @token _ m _ _ _ _ token tokens stop scanned rest ih =>
    obtain ⟨e, found⟩ := nextToken_stored scanned
    rw [tokenize_eq, scanned]
    simp only [ih]
    cases stop with
    | none => simp only [Option.elim, List.map_cons, rest.collected found]
    | some e => rfl

theorem drain_none {l l' : Lexer σ κ ν} {s s' : σ} (given : l.next? s = (none, l', s')) :
    l.drain s = ([], l', s') := by
  rw [drain]
  split <;> next again => simp_all

theorem drain_some {l l' : Lexer σ κ ν} {s s' : σ} {item : Except ScanError (κ × TokenId)}
    (given : l.next? s = (some item, l', s')) : l.drain s = (item :: (l'.drain s').1, (l'.drain s').2) := by
  rw [drain]
  split <;> next again => simp_all

/-- What the stream gives for the same scans: the tokens, and then the error. -/
theorem Pulls.drain {l l' : Lexer σ κ ν} {s s' : σ} {tokens : List (κ × TokenId)} {stop : Option ScanError}
    (pulls : Pulls l s tokens stop l' s') (running : l.status = .running) :
    l.drain s = (tokens.map .ok ++ stop.toList.map .error, l', s') := by
  induction pulls with
  | @endOfInput l _ s _ scanned =>
    exact drain_none (by simp only [next?, running, if_true, scanned])
  | @error l l' s s' e scanned =>
    have given : l.next? s = (some (.error e), l', s') := by simp only [next?, running, if_true, scanned]
    have failed : l'.status = .failed := by
      have status := nextToken_status l s
      rwa [scanned] at status
    have nothing : l'.next? s' = (none, l', s') := next?_idle (by simp [failed]) s'
    rw [drain_some given, drain_none nothing]
    rfl
  | @token l m _ s t _ token tokens stop scanned rest ih =>
    have given : l.next? s = (some (.ok token), m, t) := by simp only [next?, running, if_true, scanned]
    have again : m.status = .running := by
      have status := nextToken_status l s
      rwa [scanned] at status
    rw [drain_some given, ih again]
    rfl

theorem listing_eq (l : Lexer σ String ν) (s : σ) : l.listing s =
    match l.nextToken s with
    | (.error e, _, _) => ([], some e)
    | (.ok none, _, _) => ([], none)
    | (.ok (some token), l', s') => (l'.listed token.1 token.2 :: (l'.listing s').1, (l'.listing s').2) := by
  rw [listing]
  split <;> next given => rw [given]

/-- What is listed of a token can be looked up at once or later. -/
theorem Pulls.listed {l l' : Lexer σ String ν} {s s' : σ} {tokens : List (String × TokenId)}
    {stop : Option ScanError} (pulls : Pulls l s tokens stop l' s') (kind : String) {id : TokenId} {e : Entry ν}
    (found : l.table.entry? id = some e) : l'.listed kind id = l.listed kind id := by
  have still := (kept_entry id e).pulls pulls found
  have same : l'.source = l.source := (kept_source l.source).pulls pulls rfl
  simp only [Lexer.listed, text?, ValueTable.range?, ValueTable.bytes?, found, still, same]

/-- The listing of the same scans. -/
theorem Pulls.listing {l l' : Lexer σ String ν} {s s' : σ} {tokens : List (String × TokenId)}
    {stop : Option ScanError} (pulls : Pulls l s tokens stop l' s') :
    l.listing s = (tokens.map fun token => l'.listed token.1 token.2, stop) := by
  induction pulls with
  | endOfInput scanned | error scanned => simp only [listing_eq, scanned, List.map_nil]
  | @token _ m l' _ _ _ token tokens stop scanned rest ih =>
    obtain ⟨e, found⟩ := nextToken_stored scanned
    rw [listing_eq, scanned]
    simp only [ih, List.map_cons, rest.listed token.1 found]

end Lexicon.Lexer

import Lexicon.Registry

/-! A scan of one source, from left to right. Positions count characters; byte offsets are kept beside
them. -/
namespace Lexicon

/-- The text not yet consumed, and how many characters and bytes were consumed before it. -/
structure Cursor where
  rest : List Char
  position : Nat
  bytePosition : Nat
  deriving DecidableEq, Repr

namespace Cursor

def start (source : List Char) : Cursor := ⟨source, 0, 0⟩

/-- Consumes up to `count` characters. -/
def advance (c : Cursor) (count : Nat) : Cursor where
  rest := c.rest.drop count
  position := c.position + (c.rest.take count).length
  bytePosition := c.bytePosition + utf8Length (c.rest.take count)

/-- The stretch of the next `count` characters. -/
def range (c : Cursor) (count : Nat) : Span := ⟨c.position, (c.advance count).position⟩

/-- The stretch of the next `count` characters, in bytes. -/
def bytes (c : Cursor) (count : Nat) : Span := ⟨c.bytePosition, (c.advance count).bytePosition⟩

theorem advance_shorter {c : Cursor} {count : Nat} (nonempty : c.rest ≠ []) (positive : 0 < count) :
    (c.advance count).rest.length < c.rest.length := by
  have : 0 < c.rest.length := List.length_pos_iff.mpr nonempty
  simp [advance, List.length_drop]
  omega

end Cursor

inductive Status where
  | running
  /-- The last scan reached the end of the source. -/
  | endOfInput
  /-- The last scan failed. -/
  | failed
  deriving DecidableEq, Repr

/-- What to do where no definition matches. -/
inductive Recovery where
  | fail
  /-- Pass over so many characters, at least one. -/
  | skip (count : Nat)
  deriving DecidableEq, Repr

/-- Where no definition matches. -/
structure Unmatched where
  position : Nat
  remaining : List Char
  deriving DecidableEq, Repr

/-- Decides what to do where no definition matches; it may read and change the shared state. -/
abbrev Hook (σ : Type) := Unmatched → σ → Recovery × σ

inductive ScanError where
  | unmatched (position : Nat) (remaining : String)
  | handler (range : Span) (failure : Failure)
  | dangling (range : Span) (target : TokenId)
  | tooManyTokens (position : Nat)
  deriving DecidableEq

namespace ScanError

/-- The first characters of a text, with dots if there are more. -/
def shorten (text : String) : String :=
  let limit := 32
  if text.toList.length ≤ limit then text else String.ofList (text.toList.take limit) ++ "..."

def message : ScanError → String
  | unmatched position remaining =>
    "no pattern matches at offset " ++ toString position ++ ": '" ++ shorten remaining ++ "'"
  | handler range failure => "dispatch handler failed at " ++ range.text ++ ": " ++ failure.message
  | dangling range target =>
    "token at " ++ range.text ++ " refers to " ++ target.text ++ ", which has not been produced"
  | tooManyTokens position => "token limit reached at offset " ++ toString position

/-- The character at which the scan stopped. -/
def position : ScanError → Nat
  | unmatched position _ | tooManyTokens position => position
  | handler range _ | dangling range _ => range.start

/-- The messages of what caused the error, nearest first. -/
def causes : ScanError → List String
  | handler _ failure => failure.message :: failure.causes
  | _ => []

def outline : ScanError → Outline
  | unmatched position remaining =>
    .record "UnmatchedInput" [.field "position" (.ofNat position), .field "remaining" (.ofText remaining)]
  | handler range failure =>
    .record "Handler" [
      .field "range" (.atom range.text),
      .field "source" (.tuple "HandlerError" [.ofText failure.message])]
  | dangling range target =>
    .record "DanglingReference" [.field "range" (.atom range.text), .field "target" target.outline]
  | tooManyTokens position => .record "TooManyTokens" [.field "position" (.ofNat position)]

end ScanError

/-- What a lexer puts on record, in order. -/
inductive Note where
  | skipped (range : Span)
  | token (range : Span) (id : TokenId)
  | unmatched (position count : Nat)
  deriving DecidableEq

def Note.text : Note → String
  | skipped range => "TRACE " ++ range.text ++ " skip"
  | token range id => "TRACE " ++ range.text ++ " token " ++ id.text
  | unmatched position count =>
    "WARN no pattern matches at offset " ++ toString position ++ ", skipping " ++ toString count ++ " chars"

/-- A token with its stretches of the source. -/
structure Token (κ : Type) where
  kind : κ
  id : TokenId
  range : Span
  bytes : Span
  deriving DecidableEq

structure Lexer (σ κ ν : Type) where
  registry : Registry σ κ ν
  source : List Char
  cursor : Cursor
  locations : Regex.Locations
  table : ValueTable ν
  status : Status
  hook : Option (Hook σ)
  journal : Array Note

namespace Lexer
variable {σ κ ν : Type}

def ofSource (registry : Registry σ κ ν) (hook : Option (Hook σ)) (source : List Char) :
    Lexer σ κ ν where
  registry := registry
  source := source
  cursor := .start source
  locations := .empty
  table := .empty
  status := .running
  hook := hook
  journal := #[]

def position (l : Lexer σ κ ν) : Nat := l.cursor.position

def bytePosition (l : Lexer σ κ ν) : Nat := l.cursor.bytePosition

def remaining (l : Lexer σ κ ν) : List Char := l.cursor.rest

def isAtEnd (l : Lexer σ κ ν) : Bool := l.cursor.rest.isEmpty

/-- The stretch of the source that a token consumed. -/
def text? (l : Lexer σ κ ν) (id : TokenId) : Option (List Char) :=
  (l.table.bytes? id).bind (sliceBytes? l.source)

/-- Whether a pattern matches at the cursor; nothing is consumed. -/
def peek (l : Lexer σ κ ν) (lookahead : Lookahead) : Bool :=
  (lookahead.matchLength l.cursor.rest).isSome

/-- Consumes `count` characters and puts a note on record. -/
def advance (l : Lexer σ κ ν) (count : Nat) (note : Note) : Lexer σ κ ν :=
  { l with cursor := l.cursor.advance count, journal := l.journal.push note }

/-- What a scan reports: a token, the end of the source, or an error. -/
abbrev Outcome (κ : Type) := Except ScanError (Option (κ × TokenId))

/-- What one match or one recovery leads to: a report, or further scanning. -/
inductive Progress (κ : Type) where
  | again
  | done (outcome : Outcome κ)

/-- What the hook is told at the cursor. -/
def unmatched (l : Lexer σ κ ν) : Unmatched := ⟨l.cursor.position, l.cursor.rest⟩

/-- Passes over `count` characters, at least one, that no definition matches. -/
def skipUnmatched (l : Lexer σ κ ν) (count : Nat) : Lexer σ κ ν :=
  l.advance (max count 1) (.unmatched l.cursor.position (min (max count 1) l.cursor.rest.length))

/-- Asks the hook what to do; without a hook the scan fails. -/
def recover (l : Lexer σ κ ν) (s : σ) : Progress κ × Lexer σ κ ν × σ :=
  match l.hook with
  | none => (.done (.error (.unmatched l.position (String.ofList l.remaining))), l, s)
  | some hook =>
    match hook l.unmatched s with
    | (.fail, s') => (.done (.error (.unmatched l.position (String.ofList l.remaining))), l, s')
    | (.skip count, s') => (.again, l.skipUnmatched count, s')

/-- Whether the table lacks the token that a value refers to. -/
def dangling? (table : ValueTable ν) : Value ν → Option TokenId
  | .ref target => if table.contains target then none else some target
  | _ => none

/-- Stores a value for the next `count` characters and reports the token. -/
def emit (l : Lexer σ κ ν) (count : Nat) (kind : κ) (value : Value ν) : Outcome κ × Lexer σ κ ν :=
  match dangling? l.table value with
  | some target => (.error (.dangling (l.cursor.range count) target), l)
  | none =>
    match l.table.append value (l.cursor.range count) (l.cursor.bytes count) with
    | .error _ => (.error (.tooManyTokens l.position), l)
    | .ok (id, table) =>
      (.ok (some (kind, id)), { l.advance count (.token (l.cursor.range count) id) with table })

/-- The next `count` characters. -/
def lexeme (l : Lexer σ κ ν) (count : Nat) : String := String.ofList (l.cursor.rest.take count)

/-- Does what the definition says that fired for the next `count` characters. -/
def perform (l : Lexer σ κ ν) (count : Nat) (s : σ) :
    Role σ κ ν → Progress κ × Lexer σ κ ν × σ
  | .skip => (.again, l.advance count (.skipped (l.cursor.range count)), s)
  | .token kind =>
    match l.emit count kind (.text (l.lexeme count)) with
    | (outcome, l') => (.done outcome, l', s)
  | .dispatch handler =>
    match handler (l.lexeme count) l.table s with
    | (.error failure, s') => (.done (.error (.handler (l.cursor.range count) failure)), l, s')
    | (.ok (kind, value), s') =>
      match l.emit count kind value with
      | (outcome, l') => (.done outcome, l', s')

/-- What fires at the cursor, and the lexer with the match written to its store. A match of nothing would
not advance, so it counts as no match. -/
def hit? (l : Lexer σ κ ν) : Option (Hit σ κ ν) × Lexer σ κ ν :=
  match l.registry.matchStart l.locations l.cursor.rest with
  | (hit, locations) => (hit.filter (0 < ·.length), { l with locations })

/-- One match or one recovery at the cursor. -/
def step (l : Lexer σ κ ν) (s : σ) : Progress κ × Lexer σ κ ν × σ :=
  match l.cursor.rest with
  | [] => (.done (.ok none), l, s)
  | _ :: _ =>
    match l.hit? with
    | (none, l') => l'.recover s
    | (some hit, l') => l'.perform hit.length s hit.definition.role

theorem hit?_cursor {l l' : Lexer σ κ ν} {hit : Option (Hit σ κ ν)} (found : l.hit? = (hit, l')) :
    l'.cursor = l.cursor := by
  rw [show l' = l.hit?.2 by rw [found]]
  rfl

theorem hit?_positive {l l' : Lexer σ κ ν} {hit : Hit σ κ ν} (found : l.hit? = (some hit, l')) :
    0 < hit.length := by
  have kept : l.hit?.1 = some hit := by rw [found]
  simpa using (Option.filter_eq_some_iff.mp kept).2

theorem advance_shorter {l : Lexer σ κ ν} {count : Nat} {note : Note}
    (nonempty : l.cursor.rest ≠ []) (positive : 0 < count) :
    (l.advance count note).cursor.rest.length < l.cursor.rest.length :=
  Cursor.advance_shorter nonempty positive

theorem recover_again_shorter {l l' : Lexer σ κ ν} {s s' : σ} (nonempty : l.cursor.rest ≠ [])
    (h : l.recover s = (.again, l', s')) : l'.cursor.rest.length < l.cursor.rest.length := by
  unfold recover at h
  split at h
  · simp at h
  · split at h
    · simp at h
    · simp only [Prod.mk.injEq] at h
      rw [← h.2.1]
      exact advance_shorter nonempty (by omega)

theorem perform_again_shorter {l l' : Lexer σ κ ν} {s s' : σ} {count : Nat} {role : Role σ κ ν}
    (nonempty : l.cursor.rest ≠ []) (positive : 0 < count)
    (h : l.perform count s role = (.again, l', s')) :
    l'.cursor.rest.length < l.cursor.rest.length := by
  unfold perform at h
  split at h
  · simp only [Prod.mk.injEq] at h
    rw [← h.2.1]
    exact advance_shorter nonempty positive
  · simp at h
  · split at h <;> simp at h

/-- Where scanning goes on, something was consumed. -/
theorem step_again_shorter {l l' : Lexer σ κ ν} {s s' : σ} (h : l.step s = (.again, l', s')) :
    l'.cursor.rest.length < l.cursor.rest.length := by
  unfold step at h
  split at h
  · simp at h
  · next rest =>
    have nonempty : l.cursor.rest ≠ [] := by simp [rest]
    split at h
    · next found => exact hit?_cursor found ▸ recover_again_shorter (hit?_cursor found ▸ nonempty) h
    · next found =>
      exact hit?_cursor found ▸
        perform_again_shorter (hit?_cursor found ▸ nonempty) (hit?_positive found) h

theorem emit_token_shorter {l l' : Lexer σ κ ν} {count : Nat} {kind : κ} {value : Value ν}
    {token : κ × TokenId} (nonempty : l.cursor.rest ≠ []) (positive : 0 < count)
    (h : l.emit count kind value = (.ok (some token), l')) :
    l'.cursor.rest.length < l.cursor.rest.length := by
  unfold emit at h
  split at h
  · simp at h
  · split at h
    · simp at h
    · simp only [Prod.mk.injEq] at h
      rw [← h.2]
      exact Cursor.advance_shorter nonempty positive

theorem recover_token_ne {l l' : Lexer σ κ ν} {s s' : σ} {token : κ × TokenId} :
    l.recover s ≠ (.done (.ok (some token)), l', s') := by
  unfold recover
  split
  · simp
  · split <;> simp

theorem perform_token_shorter {l l' : Lexer σ κ ν} {s s' : σ} {count : Nat} {role : Role σ κ ν}
    {token : κ × TokenId} (nonempty : l.cursor.rest ≠ []) (positive : 0 < count)
    (h : l.perform count s role = (.done (.ok (some token)), l', s')) :
    l'.cursor.rest.length < l.cursor.rest.length := by
  unfold perform at h
  split at h
  · simp at h
  · simp only [Prod.mk.injEq, Progress.done.injEq] at h
    exact emit_token_shorter nonempty positive (Prod.ext h.1 h.2.1)
  · split at h
    · simp at h
    · simp only [Prod.mk.injEq, Progress.done.injEq] at h
      exact emit_token_shorter nonempty positive (Prod.ext h.1 h.2.1)

/-- A token consumes at least one character. -/
theorem step_token_shorter {l l' : Lexer σ κ ν} {s s' : σ} {token : κ × TokenId}
    (h : l.step s = (.done (.ok (some token)), l', s')) :
    l'.cursor.rest.length < l.cursor.rest.length := by
  unfold step at h
  split at h
  · simp at h
  · next rest =>
    have nonempty : l.cursor.rest ≠ [] := by simp [rest]
    split at h
    · exact absurd h recover_token_ne
    · next found =>
      exact hit?_cursor found ▸
        perform_token_shorter (hit?_cursor found ▸ nonempty) (hit?_positive found) h

end Lexer
end Lexicon

import Lexicon.Proofs.Lexer.Runs

/-! The journal of a lexer covers the consumed source: its stretches lie end to end, none is empty, and those
of tokens are the ranges in the value table. -/
namespace Lexicon

/-- The stretch that a note is about. -/
def Note.span : Note → Span
  | skipped range | token range _ => range
  | unmatched position count => ⟨position, position + count⟩

/-- The stretch of a token and the token's number; other notes have none. -/
def Note.token? : Note → Option (Span × Nat)
  | token range id => some (range, id.number)
  | skipped _ | unmatched _ _ => none

/-- The characters of a stretch of a text. -/
def Span.slice (text : List Char) (span : Span) : List Char :=
  (text.drop span.start).take (span.stop - span.start)

/-- The stretches are not empty, and each starts where the one before it stops. -/
inductive Tiles : (start : Nat) → List Span → (stop : Nat) → Prop where
  | nil {start : Nat} : Tiles start [] start
  | cons {span : Span} {rest : List Span} {stop : Nat} (nonempty : span.start < span.stop)
      (next : Tiles span.stop rest stop) : Tiles span.start (span :: rest) stop

namespace Tiles

theorem append {start middle stop : Nat} {first second : List Span} (left : Tiles start first middle)
    (right : Tiles middle second stop) : Tiles start (first ++ second) stop := by
  induction left with
  | nil => exact right
  | cons nonempty _ ih => exact .cons nonempty (ih right)

theorem single {start stop : Nat} (nonempty : start < stop) : Tiles start [⟨start, stop⟩] stop :=
  @cons ⟨start, stop⟩ [] stop nonempty .nil

theorem le {start stop : Nat} {spans : List Span} (tiles : Tiles start spans stop) : start ≤ stop := by
  induction tiles with
  | nil => exact Nat.le_refl _
  | cons nonempty _ ih => exact Nat.le_trans (Nat.le_of_lt nonempty) ih

/-- Put together, the characters of the stretches are those between the two ends. -/
theorem flatMap_slice {start stop : Nat} {spans : List Span} (tiles : Tiles start spans stop)
    (text : List Char) : spans.flatMap (Span.slice text) = (text.drop start).take (stop - start) := by
  induction tiles with
  | nil => simp
  | @cons span rest stop nonempty next ih =>
    have ordered := next.le
    rw [List.flatMap_cons, ih, Span.slice]
    have split : stop - span.start = (span.stop - span.start) + (stop - span.stop) := by omega
    rw [split, List.take_add, List.drop_drop]
    congr 3
    omega

end Tiles

namespace Lexer
variable {σ κ ν : Type}

/-- The stretches on record cover what was consumed, and those of tokens are the stored ones. -/
structure Covered (l : Lexer σ κ ν) : Prop where
  rest : l.remaining = l.source.drop l.position
  within : l.position ≤ l.source.length
  bytes : l.bytePosition = utf8Length (l.source.take l.position)
  tiles : Tiles 0 (l.journal.toList.map Note.span) l.position
  tokens : l.journal.toList.filterMap Note.token? =
    (l.table.entries.toList.map (·.range)).zipIdx 1

theorem covered_ofSource (registry : Registry σ κ ν) (hook : Option (Hook σ)) (source : List Char) :
    (ofSource registry hook source).Covered where
  rest := by simp [ofSource, Cursor.start, position, remaining]
  within := Nat.zero_le _
  bytes := by simp [ofSource, Cursor.start, position, bytePosition, utf8Length]
  tiles := .nil
  tokens := by simp [ofSource, ValueTable.empty]

/-- How far the cursor really moves. -/
theorem advance_position (l : Lexer σ κ ν) (count : Nat) (note : Note) :
    (l.advance count note).position = l.position + min count l.remaining.length := by
  simp [advance, position, Cursor.advance, remaining]

theorem range_eq (l : Lexer σ κ ν) (count : Nat) :
    l.cursor.range count = ⟨l.position, l.position + min count l.remaining.length⟩ := by
  simp [Cursor.range, Cursor.advance, position, remaining]

/-- Consuming characters that are there, with a note of their stretch, covers them. -/
theorem Covered.advance {l : Lexer σ κ ν} {count : Nat} {note : Note} {table : ValueTable ν}
    (covered : l.Covered) (left : l.remaining ≠ []) (positive : 0 < count)
    (span : note.span = l.cursor.range count)
    (tokens : l.journal.toList.filterMap Note.token? ++ note.token?.toList =
      (table.entries.toList.map (·.range)).zipIdx 1) :
    Covered { l.advance count note with table } := by
  have moved := l.advance_position count note
  have total : l.remaining.length = l.source.length - l.position := by rw [covered.rest, List.length_drop]
  have some : 0 < l.remaining.length := List.length_pos_iff.mpr left
  have within := covered.within
  refine ⟨?_, ?_, ?_, ?_, ?_⟩
  · change l.remaining.drop count = l.source.drop (l.advance count note).position
    rw [moved, ← List.drop_drop, ← covered.rest]
    rcases Nat.le_total count l.remaining.length with short | long
    · rw [Nat.min_eq_left short]
    · rw [Nat.min_eq_right long, List.drop_length, List.drop_eq_nil_of_le long]
  · change (l.advance count note).position ≤ l.source.length
    omega
  · change l.bytePosition + utf8Length (l.remaining.take count) =
      utf8Length (l.source.take (l.advance count note).position)
    rw [moved, List.take_add, utf8Length_append, ← covered.bytes, ← covered.rest,
      ← List.take_eq_take_min]
  · change Tiles 0 ((l.journal.push note).toList.map Note.span) (l.advance count note).position
    rw [moved, Array.toList_push, List.map_append, List.map_singleton, span, range_eq]
    exact covered.tiles.append (.single (by omega))
  · change (l.journal.push note).toList.filterMap Note.token? = _
    rw [Array.toList_push, List.filterMap_append, ← tokens]
    cases noted : note.token? <;> simp [noted]

theorem Covered.hit {l m : Lexer σ κ ν} {hit : Option (Hit σ κ ν)} (covered : l.Covered)
    (found : l.hit? = (hit, m)) : m.Covered := by
  obtain ⟨locations, rfl⟩ := hit?_eq found
  exact ⟨covered.rest, covered.within, covered.bytes, covered.tiles, covered.tokens⟩

theorem Covered.passes {l l' : Lexer σ κ ν} {s s' : σ} (covered : l.Covered) (passes : Passes l s l' s') :
    l'.Covered := by
  cases passes with
  | skip left found skips =>
    have kept := covered.hit found
    refine kept.advance (hit?_remaining found ▸ left) (hit?_positive found) rfl ?_
    simpa [Note.token?] using kept.tokens
  | giveUp left missing hooked answer =>
    have kept := covered.hit missing
    refine kept.advance (hit?_remaining missing ▸ left) (by omega) ?_ ?_
    · exact (range_eq _ _).symm
    · simpa [Note.token?] using kept.tokens

theorem Covered.ends {l l' : Lexer σ κ ν} {s s' : σ} {outcome : Outcome κ} (covered : l.Covered)
    (ends : Ends l s outcome l' s') : l'.Covered := by
  cases ends with
  | endOfInput => exact covered
  | error left fails =>
    obtain ⟨hit, found⟩ := fails.hit
    exact covered.hit found
  | @token m _ _ hit kind value id table left found computed known stored =>
    have kept := covered.hit found
    refine kept.advance (hit?_remaining found ▸ left) (hit?_positive found) rfl ?_
    obtain ⟨number, rfl⟩ := ValueTable.append_ok stored
    have cursor := hit?_cursor found
    have table : m.table = l.table := congrArg (·.2.table) found.symm
    simp only [Note.token?, Option.toList_some, kept.tokens, table, Array.toList_push, List.map_append,
      List.map_singleton, List.zipIdx_append, List.length_map, Array.length_toList, List.zipIdx_singleton,
      cursor, number, ValueTable.size, Nat.add_comm]

theorem kept_covered : Kept (@Covered σ κ ν) where
  passes := fun passes covered => covered.passes passes
  ends := fun ends covered => covered.ends ends
  status := fun ⟨rest, within, bytes, tiles, tokens⟩ => ⟨rest, within, bytes, tiles, tokens⟩

theorem kept_source (text : List Char) : Kept fun l : Lexer σ κ ν => l.source = text where
  passes := by
    intro l l' s s' passes same
    cases passes with
    | skip left found skips =>
      obtain ⟨locations, rfl⟩ := hit?_eq found
      exact same
    | giveUp left missing hooked answer =>
      obtain ⟨locations, rfl⟩ := hit?_eq missing
      exact same
  ends := by
    intro l l' s s' outcome ends same
    cases ends with
    | endOfInput => exact same
    | error left fails =>
      obtain ⟨hit, found⟩ := fails.hit
      obtain ⟨locations, rfl⟩ := hit?_eq found
      exact same
    | token left found computed known stored =>
      obtain ⟨locations, rfl⟩ := hit?_eq found
      exact same
  status := id

/-- A note of consumed characters is a tile of its own. -/
theorem advance_tiles {l m : Lexer σ κ ν} {hit : Option (Hit σ κ ν)} {count : Nat} {note : Note}
    (found : l.hit? = (hit, m)) (left : l.remaining ≠ []) (positive : 0 < count)
    (span : note.span = m.cursor.range count) :
    Tiles l.position [note.span] (m.advance count note).position := by
  have some : 0 < m.remaining.length := List.length_pos_iff.mpr (hit?_remaining found ▸ left)
  have position : l.position = m.position := (congrArg Cursor.position (hit?_cursor found)).symm
  rw [span, advance_position, range_eq, position]
  exact .single (by omega)

/-- Text that is passed over is on record without a token. -/
theorem Passes.note {l l' : Lexer σ κ ν} {s s' : σ} (passes : Passes l s l' s') :
    ∃ note, l'.journal.toList = l.journal.toList ++ [note] ∧ note.token? = none ∧
      Tiles l.position [note.span] l'.position := by
  cases passes with
  | @skip m _ hit left found skips =>
    refine ⟨.skipped (m.cursor.range hit.length), ?_, rfl, ?_⟩
    · obtain ⟨locations, rfl⟩ := hit?_eq found
      exact Array.toList_push
    · exact advance_tiles found left (hit?_positive found) rfl
  | @giveUp m _ _ hook count left missing hooked answer =>
    refine ⟨.unmatched m.cursor.position (min (max count 1) m.cursor.rest.length), ?_, rfl, ?_⟩
    · obtain ⟨locations, rfl⟩ := hit?_eq missing
      exact Array.toList_push
    · exact advance_tiles missing left (by omega) (range_eq _ _).symm

theorem Passing.notes {l l' : Lexer σ κ ν} {s s' : σ} (passing : Passing l s l' s') :
    ∃ notes, l'.journal.toList = l.journal.toList ++ notes ∧ (∀ note ∈ notes, note.token? = none) ∧
      Tiles l.position (notes.map Note.span) l'.position := by
  induction passing with
  | refl => exact ⟨[], by simp, by simp, .nil⟩
  | step first _ ih =>
    obtain ⟨note, pushed, silent, tile⟩ := first.note
    obtain ⟨notes, journal, silents, tiles⟩ := ih
    refine ⟨note :: notes, ?_, ?_, tile.append tiles⟩
    · rw [journal, pushed, List.append_assoc, List.singleton_append]
    · exact List.forall_mem_cons.mpr ⟨silent, silents⟩

/-- An error is where the lexer stands, and nothing is put on record for it. -/
theorem Fails.position {l m : Lexer σ κ ν} {s s' : σ} {e : ScanError} (fails : Fails l s e m s') :
    e.position = l.position := by
  cases fails <;> rfl

theorem Fails.journal {l m : Lexer σ κ ν} {s s' : σ} {e : ScanError} (fails : Fails l s e m s') :
    m.journal = l.journal := by
  obtain ⟨hit, found⟩ := fails.hit
  obtain ⟨locations, rfl⟩ := hit?_eq found
  rfl

/-- A failing call puts on record what it passed over, up to where it fails, and no token. -/
theorem nextToken_error_notes {l l' : Lexer σ κ ν} {s s' : σ} {e : ScanError}
    (failed : l.nextToken s = (.error e, l', s')) :
    ∃ notes, l'.journal.toList = l.journal.toList ++ notes ∧ (∀ note ∈ notes, note.token? = none) ∧
      Tiles l.position (notes.map Note.span) e.position := by
  obtain ⟨m, t, last, passing, -, fails, rfl⟩ := nextToken_error failed
  obtain ⟨notes, journal, silent, tiles⟩ := passing.notes
  refine ⟨notes, ?_, silent, fails.position ▸ tiles⟩
  rw [← journal, ← fails.journal]

/-- Nothing is lost and nothing is scanned twice, whatever is called and however it ends. The stretches on
record lie end to end from the start of the source to the cursor, and none is empty; together they are the
consumed text, and the rest is what remains. The stretches of tokens are those in the value table, in the order
of the tokens' numbers. A call that fails puts on record only what it passed over before the place of its error. -/
theorem run_covers_source (registry : Registry σ κ ν) (hook : Option (Hook σ)) (source : List Char)
    (calls : List Call) (s : σ) :
    let l := ((ofSource registry hook source).run s calls).2.1
    let spans := l.journal.toList.map Note.span
    Tiles 0 spans l.position ∧
      spans.flatMap (Span.slice source) ++ l.remaining = source ∧
      utf8Length (spans.flatMap (Span.slice source)) = l.bytePosition ∧
      l.journal.toList.filterMap Note.token? = (l.table.entries.toList.map (·.range)).zipIdx 1 ∧
      ∀ s' c report e l' s'', l.call s' c = (report, l', s'') → report.error? = some e →
        ∃ notes, l'.journal.toList = l.journal.toList ++ notes ∧ (∀ note ∈ notes, note.token? = none) ∧
          Tiles l.position (notes.map Note.span) e.position := by
  intro l spans
  have covered : l.Covered := kept_covered.run calls _ s (covered_ofSource registry hook source)
  have same : l.source = source := (kept_source source).run calls _ s rfl
  have consumed : spans.flatMap (Span.slice source) = source.take l.position := by
    simpa using covered.tiles.flatMap_slice source
  refine ⟨covered.tiles, ?_, ?_, covered.tokens, ?_⟩
  · rw [consumed, covered.rest, same, List.take_append_drop]
  · rw [consumed, covered.bytes, same]
  · intro s' c report e l' s'' called failed
    exact nextToken_error_notes (call_error called failed)

end Lexer
end Lexicon

import Lexicon.Proofs.Lexer.Journal
import Lexicon.Proofs.ValueTable

/-! Characters and bytes are counted side by side and never drift apart: the cursor and the ends of every stored
stretch stand between two characters of the source, where both counts say the same. -/
namespace Lexicon

/-- A stretch of the characters of a text, in bytes. -/
def Span.toBytes (text : List Char) (span : Span) : Span :=
  ⟨utf8Length (text.take span.start), utf8Length (text.take span.stop)⟩

/-- Every stretch is behind those before it, and none goes beyond the last one's stop. -/
theorem Tiles.ordered {start stop : Nat} {spans : List Span} (tiles : Tiles start spans stop) :
    spans.Pairwise (fun a b => a.stop ≤ b.start) ∧
      ∀ span ∈ spans, start ≤ span.start ∧ span.start < span.stop ∧ span.stop ≤ stop := by
  induction tiles with
  | nil => simp
  | @cons span rest stop nonempty next ih =>
    obtain ⟨ordered, bounds⟩ := ih
    constructor
    · exact List.pairwise_cons.mpr ⟨fun other member => (bounds other member).1, ordered⟩
    · intro other member
      rcases List.mem_cons.mp member with rfl | later
      · exact ⟨Nat.le_refl _, nonempty, next.le⟩
      · obtain ⟨behind, short, before⟩ := bounds other later
        exact ⟨by omega, short, before⟩

/-- The stretches of tokens are among those on record. -/
theorem Note.tokens_sublist (notes : List Note) :
    ((notes.filterMap Note.token?).map (·.1)).Sublist (notes.map Note.span) := by
  induction notes with
  | nil => exact List.Sublist.refl _
  | cons note notes ih =>
    cases note with
    | skipped | unmatched => exact ih.cons _
    | token => exact ih.cons_cons _

namespace Lexer
open ValueTable (entry?_of_contains)
variable {σ κ ν : Type}

/-- What was consumed is covered, and the stored stretches in bytes are those in characters. -/
structure Aligned (l : Lexer σ κ ν) : Prop where
  covered : l.Covered
  bytes : ∀ e ∈ l.table.entries.toList, e.bytes = e.range.toBytes l.source

theorem aligned_ofSource (registry : Registry σ κ ν) (hook : Option (Hook σ)) (source : List Char) :
    (ofSource registry hook source).Aligned where
  covered := covered_ofSource registry hook source
  bytes := by simp [ofSource, ValueTable.empty]

/-- The next characters as a stretch of the source, which may end before as many as are asked for. -/
theorem Covered.bytes_eq {l : Lexer σ κ ν} (covered : l.Covered) (count : Nat) :
    l.cursor.bytes count = (l.cursor.range count).toBytes l.source := by
  have start : l.cursor.bytePosition = utf8Length (l.source.take l.position) := covered.bytes
  have rest : l.cursor.rest = l.source.drop l.position := covered.rest
  rw [range_eq, Cursor.bytes, Cursor.advance, Span.toBytes, remaining]
  simp only
  rw [start, List.take_add, utf8Length_append, rest, ← List.take_eq_take_min]

/-- The next characters are a slice of the source by bytes. -/
theorem Covered.slice {l : Lexer σ κ ν} (covered : l.Covered) (count : Nat) :
    sliceBytes? l.source (l.cursor.bytes count) = some (l.remaining.take count) := by
  have within := covered.within
  have total : l.remaining.length = l.source.length - l.position := by rw [covered.rest, List.length_drop]
  have inside : l.position + min count l.remaining.length ≤ l.source.length := by omega
  rw [covered.bytes_eq, range_eq, Span.toBytes, sliceBytes?_take (Nat.le_add_right _ _) inside,
    Nat.add_sub_cancel_left, ← covered.rest, ← List.take_eq_take_min]

/-- What remains is the slice of the source from the cursor to the end. -/
theorem Covered.slice_remaining {l : Lexer σ κ ν} (covered : l.Covered) :
    sliceBytes? l.source ⟨l.bytePosition, utf8Length l.source⟩ = some l.remaining := by
  have whole := sliceBytes?_take covered.within (Nat.le_refl l.source.length)
  have total : l.remaining.length ≤ l.source.length - l.position :=
    Nat.le_of_eq (by rw [covered.rest, List.length_drop])
  rwa [List.take_length, ← covered.bytes, ← covered.rest, List.take_of_length_le total] at whole

theorem Aligned.passes {l l' : Lexer σ κ ν} {s s' : σ} (aligned : l.Aligned) (passes : Passes l s l' s') :
    l'.Aligned := by
  refine ⟨aligned.covered.passes passes, ?_⟩
  cases passes with
  | skip left found skips =>
    obtain ⟨locations, rfl⟩ := hit?_eq found
    exact aligned.bytes
  | giveUp left missing hooked answer =>
    obtain ⟨locations, rfl⟩ := hit?_eq missing
    exact aligned.bytes

theorem Aligned.ends {l l' : Lexer σ κ ν} {s s' : σ} {outcome : Outcome κ} (aligned : l.Aligned)
    (ends : Ends l s outcome l' s') : l'.Aligned := by
  refine ⟨aligned.covered.ends ends, ?_⟩
  cases ends with
  | endOfInput => exact aligned.bytes
  | error left fails =>
    obtain ⟨hit, found⟩ := fails.hit
    obtain ⟨locations, rfl⟩ := hit?_eq found
    exact aligned.bytes
  | token left found computed known stored =>
    obtain ⟨locations, rfl⟩ := hit?_eq found
    obtain ⟨-, rfl⟩ := ValueTable.append_ok stored
    intro e member
    change e ∈ (l.table.entries.push _).toList at member
    rw [Array.toList_push, List.mem_append, List.mem_singleton] at member
    rcases member with old | rfl
    · exact aligned.bytes e old
    · exact aligned.covered.bytes_eq _

theorem kept_aligned : Kept (@Aligned σ κ ν) where
  passes := fun passes aligned => aligned.passes passes
  ends := fun ends aligned => aligned.ends ends
  status := fun ⟨covered, bytes⟩ => ⟨kept_covered.status covered, bytes⟩

/-- The cursor only ever moves on. -/
theorem kept_behind (position bytePosition : Nat) : Kept fun l : Lexer σ κ ν =>
    position ≤ l.position ∧ bytePosition ≤ l.bytePosition where
  passes := by
    intro l l' s s' passes behind
    cases passes with
    | skip left found skips =>
      obtain ⟨locations, rfl⟩ := hit?_eq found
      exact ⟨Nat.le_add_right_of_le behind.1, Nat.le_add_right_of_le behind.2⟩
    | giveUp left missing hooked answer =>
      obtain ⟨locations, rfl⟩ := hit?_eq missing
      exact ⟨Nat.le_add_right_of_le behind.1, Nat.le_add_right_of_le behind.2⟩
  ends := by
    intro l l' s s' outcome ends behind
    cases ends with
    | endOfInput => exact behind
    | error left fails =>
      obtain ⟨hit, found⟩ := fails.hit
      obtain ⟨locations, rfl⟩ := hit?_eq found
      exact behind
    | token left found computed known stored =>
      obtain ⟨locations, rfl⟩ := hit?_eq found
      exact ⟨Nat.le_add_right_of_le behind.1, Nat.le_add_right_of_le behind.2⟩
  status := id

/-- The stored stretches are not empty, lie one behind the other and end before the cursor. -/
theorem Covered.stored {l : Lexer σ κ ν} (covered : l.Covered) :
    (l.table.entries.toList.map (·.range)).Pairwise (fun a b => a.stop ≤ b.start) ∧
      ∀ e ∈ l.table.entries.toList, e.range.start < e.range.stop ∧ e.range.stop ≤ l.position := by
  obtain ⟨ordered, bounds⟩ := covered.tiles.ordered
  have among : (l.table.entries.toList.map (·.range)).Sublist (l.journal.toList.map Note.span) := by
    have tokens := Note.tokens_sublist l.journal.toList
    rwa [covered.tokens, List.zipIdx_map_fst] at tokens
  refine ⟨ordered.sublist among, fun e member => ?_⟩
  exact (bounds e.range (among.subset (List.mem_map_of_mem member))).2

theorem entry_mem {table : ValueTable ν} {id : TokenId} {e : Entry ν} (found : table.entry? id = some e) :
    e ∈ table.entries.toList := by
  rw [ValueTable.entry?, ← Array.getElem?_toList] at found
  exact List.mem_of_getElem? found

/-- A token with a greater number stands behind one with a smaller number. -/
theorem Covered.later {l : Lexer σ κ ν} (covered : l.Covered) {id later : TokenId} {e f : Entry ν}
    (further : id.number < later.number) (first : l.table.entry? id = some e) (second : l.table.entry? later = some f) :
    e.range.stop ≤ f.range.start := by
  have positive := id.positive
  rw [ValueTable.entry?, ← Array.getElem?_toList, List.getElem?_eq_some_iff] at first second
  obtain ⟨inside, rfl⟩ := first
  obtain ⟨within, rfl⟩ := second
  have ordered := (List.pairwise_map.mp covered.stored.1)
  exact List.pairwise_iff_getElem.mp ordered _ _ inside within (by omega)

/-- Characters and bytes never drift apart, whatever is called. The cursor stands between two characters of the source,
with as many before it as its position says, and neither count ever goes down. What remains, and what a scan takes at
any place that it passes through, are slices of the source by bytes. Each token's two ranges are one stretch that is
not empty and that ends before the cursor, its text is the text of that stretch, and tokens with greater numbers stand
behind it. -/
theorem run_aligned (registry : Registry σ κ ν) (hook : Option (Hook σ)) (source : List Char) (calls : List Call)
    (s : σ) :
    let l := ((ofSource registry hook source).run s calls).2.1
    (charOffset? source l.bytePosition = some l.position ∧ l.bytePosition ≤ utf8Length source) ∧
      (∀ more t, l.position ≤ (l.run t more).2.1.position ∧ l.bytePosition ≤ (l.run t more).2.1.bytePosition) ∧
      (∀ t m u, Passing l t m u → sliceBytes? source ⟨m.bytePosition, utf8Length source⟩ = some m.remaining ∧
        ∀ count, sliceBytes? source (m.cursor.bytes count) = some (m.remaining.take count)) ∧
      (∀ id, l.table.contains id = true → ∃ range bytes, l.table.range? id = some range ∧
        l.table.bytes? id = some bytes ∧ range.start < range.stop ∧ bytes.start < bytes.stop ∧
        charOffset? source bytes.start = some range.start ∧ charOffset? source bytes.stop = some range.stop ∧
        range.stop ≤ l.position ∧ bytes.stop ≤ l.bytePosition ∧ l.text? id = some (range.slice source)) ∧
      ∀ id later e f, id.number < later.number → l.table.entry? id = some e → l.table.entry? later = some f →
        e.range.stop ≤ f.range.start ∧ e.bytes.stop ≤ f.bytes.start := by
  intro l
  have aligned : l.Aligned := kept_aligned.run calls _ s (aligned_ofSource registry hook source)
  have same : l.source = source := (kept_source source).run calls _ s rfl
  have covered := aligned.covered
  have within := covered.within
  have place := covered.bytes
  rw [same] at within place
  refine ⟨⟨?_, ?_⟩, ?_, ?_, ?_, ?_⟩
  · rw [place, charOffset?_take within]
  · rw [place]
    simpa using utf8Length_take_mono source within
  · exact fun more t => (kept_behind l.position l.bytePosition).run more l t ⟨Nat.le_refl _, Nat.le_refl _⟩
  · intro t m u passing
    have there : m.Covered := kept_covered.passing passing covered
    have still : m.source = source := (kept_source source).passing passing same
    exact still ▸ ⟨there.slice_remaining, there.slice⟩
  · intro id known
    obtain ⟨e, found⟩ := entry?_of_contains known
    have member := entry_mem found
    obtain ⟨nonempty, before⟩ := covered.stored.2 e member
    have bytes := aligned.bytes e member
    rw [same] at bytes
    have inside : e.range.stop ≤ source.length := Nat.le_trans before within
    refine ⟨e.range, e.bytes, by simp [ValueTable.range?, found], by simp [ValueTable.bytes?, found], nonempty, ?_⟩
    rw [bytes, place]
    refine ⟨utf8Length_take_lt nonempty inside, charOffset?_take (by omega), charOffset?_take inside, before,
      utf8Length_take_mono source before, ?_⟩
    simp only [text?, ValueTable.bytes?, found, Option.map_some, Option.bind_some, same, bytes]
    exact sliceBytes?_take (Nat.le_of_lt nonempty) inside
  · intro id later e f further first second
    have behind := covered.later further first second
    refine ⟨behind, ?_⟩
    rw [aligned.bytes e (entry_mem first), aligned.bytes f (entry_mem second)]
    exact utf8Length_take_mono l.source behind

end Lexer
end Lexicon

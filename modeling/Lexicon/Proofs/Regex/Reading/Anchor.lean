import Lexicon.Proofs.Regex.Reading.Branches

/-! Whatever is put behind the start of the text and the opening of a group: the start of the text comes first, as long
as no bar stands outside of all groups. The text may close the group early, and open others. -/
namespace Lexicon.Regex

/-- The start of the text, at the start of a pattern. -/
def startAnchor : Tree := .anchor ⟨0, 2⟩ .startText

namespace Reader

/-- Outside of all groups a bar was read, or the first part is the start of the text. Once the group behind it is
closed, it is not the last part, and so it is not what a repetition repeats. -/
def Guarded (r : Reader) : Prop :=
  match r.groups.getLast? with
  | none => r.branches ≠ [] ∨ ∃ last between, r.parts = last :: between ++ [startAnchor]
  | some g => g.branches ≠ [] ∨ ∃ behind, g.parts = behind ++ [startAnchor]

theorem guarded_anchored (rest : List Char) : (anchored rest).Guarded := .inr ⟨[], rfl⟩

variable {r r' : Reader}

theorem guarded_outside (outside : r.groups = []) :
    r.Guarded ↔ r.branches ≠ [] ∨ ∃ last between, r.parts = last :: between ++ [startAnchor] := by
  simp only [Guarded, outside, List.getLast?_nil]

theorem Guarded.outside (outside : r.groups = []) (same : r'.groups = r.groups)
    (leads : r'.branches ≠ [] ∨ ∃ last between, r'.parts = last :: between ++ [startAnchor]) : r'.Guarded :=
  (guarded_outside (same.trans outside)).mpr leads

/-- Inside of a group a step leaves what is outside of it alone. -/
theorem Guarded.inside (guarded : r.Guarded) (within : r.groups ≠ []) (same : r'.groups.getLast? = r.groups.getLast?) :
    r'.Guarded := by
  cases around : r.groups.getLast? with
  | none => exact absurd (List.getLast?_eq_none_iff.mp around) within
  | some g => simpa only [Guarded, same, around] using guarded

theorem Guarded.openGroup {kind : GroupKind} {offset : Nat} {verbose : Bool} {tape : Tape} (guarded : r.Guarded) :
    (r.openGroup offset kind verbose tape).Guarded := by
  by_cases outside : r.groups = []
  · simp only [Guarded, Reader.openGroup, outside, List.getLast?_singleton]
    rcases (guarded_outside outside).mp guarded with barred | ⟨last, between, parts⟩
    · exact .inl barred
    · exact .inr ⟨last :: between, parts⟩
  · apply guarded.inside outside
    simp [Reader.openGroup, List.getLast?_cons, List.getLast?_eq_some_getLast outside]

theorem Guarded.closeParenthesis {t : Tape} (guarded : r.Guarded) (closed : r.closeParenthesis t = .ok r') :
    r'.Guarded := by
  unfold Reader.closeParenthesis at closed
  split at closed
  · simp at closed
  · next g groups opened =>
    cases closed
    cases groups with
    | nil =>
      -- The outermost group closes and becomes the last part outside.
      simp only [Guarded, opened, List.getLast?_singleton] at guarded
      rcases guarded with barred | ⟨behind, parts⟩
      · exact (guarded_outside rfl).mpr (.inl barred)
      · exact (guarded_outside rfl).mpr (.inr ⟨_, behind, congrArg (_ :: ·) parts⟩)
    | cons next groups =>
      apply guarded.inside (by simp [opened])
      simp only [opened, List.getLast?_cons_cons]

theorem Guarded.step (guarded : r.Guarded) (stepped : r.step = .ok r') : r'.Guarded := by
  cases step_moves stepped with
  | still => exact guarded
  | part =>
    by_cases outside : r.groups = []
    · refine .outside outside rfl ?_
      rcases (guarded_outside outside).mp guarded with barred | ⟨last, between, parts⟩
      · exact .inl barred
      · exact .inr ⟨_, last :: between, congrArg (_ :: ·) parts⟩
    · exact guarded.inside outside rfl
  | bar tape =>
    by_cases outside : r.groups = []
    · exact .outside outside rfl (.inl (List.cons_ne_nil _ _))
    · exact guarded.inside outside rfl
  | capture => exact Guarded.openGroup guarded
  | named => exact Guarded.openGroup guarded
  | plain => exact guarded.openGroup
  | close closed => exact guarded.closeParenthesis closed
  | repetition read =>
    by_cases outside : r.groups = []
    · refine .outside outside rfl ?_
      rcases (guarded_outside outside).mp guarded with barred | ⟨last, between, parts⟩
      · exact .inl barred
      · -- The part that is repeated is behind the start of the text: what is in front of it stays.
        rw [read, List.cons_append, List.cons.injEq] at parts
        exact .inr ⟨_, between, congrArg (_ :: ·) parts.2⟩
    · exact guarded.inside outside rfl

theorem Guarded.reaches (guarded : r.Guarded) (reaches : Reaches r r') : r'.Guarded := by
  induction reaches with
  | refl => exact guarded
  | step _ stepped _ ih => exact ih (guarded.step stepped)

theorem Guarded.contents (guarded : r.Guarded) (outside : r.groups = []) (stop : Nat) :
    (∃ span branches, r.contents stop = .alternation span branches) ∨
      ∃ span parts, r.contents stop = .concat span (startAnchor :: parts) := by
  unfold Reader.contents
  cases barred : r.branches with
  | cons => exact .inl ⟨_, _, rfl⟩
  | nil =>
    right
    obtain ⟨last, between, parts⟩ := ((guarded_outside outside).mp guarded).resolve_left (· barred)
    refine ⟨⟨r.start, stop⟩, (last :: between).reverse, ?_⟩
    rw [branch, parts, List.reverse_append]
    cases back : (last :: between).reverse with
    | nil => simp at back
    | cons => rfl

end Reader

/-- Behind the start of the text and the opening of a group, what is read is several branches, or it is a sequence that
the start of the text comes first in. -/
theorem read_behind_start {rest : List Char} {reading : Reading}
    (found : read false ('\\' :: 'A' :: '(' :: '?' :: ':' :: rest) = .ok reading) :
    (∃ span branches, reading.tree = .alternation span branches) ∨
      ∃ span parts, reading.tree = .concat span (startAnchor :: parts) := by
  obtain ⟨last, ran, -, outside, rfl, -⟩ := read_ok found
  rw [(Reader.reaches_anchored rest).runAll] at ran
  exact ((Reader.guarded_anchored rest).reaches (Reader.runAll_ok ran).1).contents outside _

end Lexicon.Regex

import Lexicon.Proofs.Unicode.Turns
import Lexicon.Regex.CharSet

/-! What sets of characters contain, and that no two of them contain the same. -/
namespace Lexicon.Regex

theorem placeOf_le {codePoint place : Nat} : placeOf codePoint ≤ place ↔ codePoint ≤ codePointAt place := by
  unfold placeOf codePointAt
  split <;> split <;> omega

theorem placeOf_codePointAt (place : Nat) : placeOf (codePointAt place) = place := by
  apply Nat.le_antisymm (placeOf_le.mpr (Nat.le_refl _))
  have below := placeOf_le.mp (Nat.le_refl (placeOf (codePointAt place)))
  generalize placeOf (codePointAt place) = other at below ⊢
  unfold codePointAt at below
  split at below <;> split at below <;> omega

theorem codePoint_valid (c : Char) : c.toNat < 0xD800 ∨ (0xDFFF < c.toNat ∧ c.toNat < 0x110000) := c.valid

theorem codePointAt_placeOf (c : Char) : codePointAt (placeOf c.toNat) = c.toNat := by
  have valid := codePoint_valid c
  apply Nat.le_antisymm _ (placeOf_le.mp (Nat.le_refl _))
  by_cases low : c.toNat < 0xD800
  · simp [placeOf, codePointAt, low]
  · have place : placeOf c.toNat = c.toNat - 0x800 := by
      rw [placeOf, if_neg low]
      omega
    rw [place, codePointAt]
    split <;> omega

theorem placeOf_lt (c : Char) : placeOf c.toNat < charCount := by
  have valid := codePoint_valid c
  unfold placeOf charCount
  split <;> omega

theorem charAt_placeOf (c : Char) : charAt (placeOf c.toNat) = c := by
  rw [charAt, codePointAt_placeOf, Char.ofNat_toNat]

theorem toNat_charAt {place : Nat} (bounded : place < charCount) : (charAt place).toNat = codePointAt place := by
  have valid : (codePointAt place).isValidChar := by
    unfold charCount at bounded
    unfold codePointAt Nat.isValidChar
    split <;> omega
  rw [charAt, Char.ofNat, dif_pos valid]
  rfl

theorem placeOf_charAt {place : Nat} (bounded : place < charCount) : placeOf (charAt place).toNat = place := by
  rw [toNat_charAt bounded, placeOf_codePointAt]

theorem placeOf_inj {c d : Char} : placeOf c.toNat = placeOf d.toNat ↔ c = d := by
  constructor
  · intro same
    rw [← charAt_placeOf c, same, charAt_placeOf]
  · rintro rfl
    rfl

theorem placeOf_mono {c d : Char} : placeOf c.toNat ≤ placeOf d.toNat ↔ c ≤ d := by
  rw [placeOf_le, codePointAt_placeOf]
  rfl

namespace CharSet

theorem inside_congr {edges : List Nat} {m n : Nat} (same : ∀ edge ∈ edges, edge ≤ m ↔ edge ≤ n) :
    inside edges m = inside edges n := by
  induction edges with
  | nil => rfl
  | cons edge edges ih =>
    rw [inside, inside, ih fun other member => same other (List.mem_cons_of_mem edge member),
      decide_eq_decide.mpr (same edge List.mem_cons_self)]

theorem inside_before {edges : List Nat} {place : Nat} (behind : ∀ edge ∈ edges, place < edge) :
    inside edges place = false := by
  cases edges with
  | nil => rfl
  | cons edge edges => simp [inside, Nat.not_le.mpr (behind edge List.mem_cons_self)]

/-! ### What is sampled -/

/-- A test gives the same at two places if none of the given ones lies between them. -/
def Steady (places : List Nat) (test : Nat → Bool) : Prop :=
  ∀ m n, m ≤ n → n < charCount → (∀ place ∈ places, place ≤ m ↔ place ≤ n) → test m = test n

namespace Steady
variable {places : List Nat} {test other : Nat → Bool}

theorem edges {edges : List Nat} (among : edges ⊆ places) : Steady places (inside edges) :=
  fun _ _ _ _ same => inside_congr fun edge member => same edge (among member)

theorem op (op : Bool → Bool → Bool) (first : Steady places test) (second : Steady places other) :
    Steady places fun place => op (test place) (other place) := by
  intro m n below bounded same
  simp only [first m n below bounded same, second m n below bounded same]

theorem not (steady : Steady places test) : Steady places fun place => !test place :=
  op (fun a _ => !a) steady steady

/-- Membership in a list changes at its members and behind them. -/
theorem members {members : List Nat} (starts : members ⊆ places) (stops : ∀ place ∈ members, place + 1 ∈ places) :
    Steady places members.contains := by
  intro m n below _ same
  rw [Bool.eq_iff_iff, List.contains_iff_mem, List.contains_iff_mem]
  constructor
  · intro member
    have past := same (m + 1) (stops m member)
    rwa [show n = m by omega]
  · intro member
    have start := same n (starts member)
    rwa [show m = n by omega]

end Steady

-- The induction is on the places; `before` is what the test gave at the last one.
theorem inside_changes {test : Nat → Bool} {places : List Nat} {n : Nat} (before : Bool)
    (increasing : places.Pairwise (· < ·)) (started : ∃ place ∈ places, place ≤ n)
    (steady : ∀ m ∈ places, m ≤ n → (∀ place ∈ places, place ≤ m ↔ place ≤ n) → test m = test n) :
    inside (changes test before places) n = (before != test n) := by
  induction places generalizing before with
  | nil => simp at started
  | cons first places ih =>
    obtain ⟨above, rest⟩ := List.pairwise_cons.mp increasing
    have reached : first ≤ n := by
      obtain ⟨place, member, below⟩ := started
      rcases List.mem_cons.mp member with rfl | later
      · exact below
      · exact Nat.le_of_lt (Nat.lt_of_lt_of_le (above place later) below)
    have onward (flipped : Bool) : inside (changes test flipped places) n = (flipped != test n) ∨
        (test first = test n ∧ inside (changes test flipped places) n = false) := by
      by_cases more : ∃ place ∈ places, place ≤ n
      · refine .inl (ih flipped rest more fun m member below same => ?_)
        apply steady m (List.mem_cons_of_mem first member) below
        intro place among
        rcases List.mem_cons.mp among with rfl | later
        · exact iff_of_true (Nat.le_of_lt (above m member)) reached
        · exact same place later
      · simp only [not_exists, not_and, Nat.not_le] at more
        refine .inr ⟨?_, inside_before fun edge member => more edge ((changes_sublist _ _ _).subset member)⟩
        apply steady first List.mem_cons_self reached
        intro place among
        rcases List.mem_cons.mp among with rfl | later
        · exact iff_of_true (Nat.le_refl _) reached
        · exact iff_of_false (Nat.not_le.mpr (above place later)) (Nat.not_le.mpr (more place later))
    rw [changes]
    split
    · next kept =>
      rcases onward before with same | ⟨last, nothing⟩
      · exact same
      · rw [nothing, ← last, kept, bne_self_eq_false]
    · next changed =>
      have turned : test first = !before := by
        revert changed
        cases test first <;> cases before <;> simp
      rw [inside, decide_eq_true reached, Bool.true_and]
      rcases onward (!before) with same | ⟨last, nothing⟩
      · rw [same]
        cases before <;> cases test n <;> rfl
      · rw [nothing, ← last, turned]
        cases before <;> rfl

theorem inside_sample {places : List Nat} {test : Nat → Bool} (steady : Steady places test) {n : Nat}
    (bounded : n < charCount) : inside (sample places test).edges n = test n := by
  have sampled := inside_changes false (inOrder_increasing places)
    ⟨0, mem_inOrder.mpr (.inl rfl), Nat.zero_le n⟩ fun m member below same => by
      apply steady m n below bounded
      intro place among
      by_cases within : place < charCount
      · exact same place (mem_inOrder.mpr (.inr ⟨among, within⟩))
      · constructor <;> intro <;> omega
  exact sampled.trans (Bool.false_bne _)

theorem contains_sample {places : List Nat} {test : Nat → Bool} (steady : Steady places test) (c : Char) :
    (sample places test).contains c = test (placeOf c.toNat) :=
  inside_sample steady (placeOf_lt c)

/-! ### What the operations give -/

@[simp] theorem contains_empty (c : Char) : empty.contains c = false := rfl

theorem contains_range (first last c : Char) :
    (range first last).contains c = (decide (first ≤ c) && decide (c ≤ last)) := by
  rw [range, contains_sample, decide_eq_decide.mpr placeOf_mono, decide_eq_decide.mpr placeOf_mono]
  intro m n _ _ same
  simp only [List.mem_cons, List.not_mem_nil, or_false, forall_eq_or_imp, forall_eq] at same
  have past : m ≤ placeOf last.toNat ↔ n ≤ placeOf last.toNat := by omega
  simp only [same.1, past]

theorem contains_single {c other : Char} : (single c).contains other = true ↔ c = other := by
  rw [single, contains_range, Bool.and_eq_true, decide_eq_true_eq, decide_eq_true_eq]
  exact ⟨fun bounds => Char.le_antisymm bounds.1 bounds.2, fun same => same ▸ ⟨Char.le_refl c, Char.le_refl c⟩⟩

theorem contains_combine (op : Bool → Bool → Bool) (a b : CharSet) (c : Char) :
    (combine op a b).contains c = op (a.contains c) (b.contains c) :=
  contains_sample (.op op (.edges (List.subset_append_left _ _)) (.edges (List.subset_append_right _ _))) c

@[simp] theorem contains_union (a b : CharSet) (c : Char) :
    (union a b).contains c = (a.contains c || b.contains c) := contains_combine _ a b c

@[simp] theorem contains_complement (a : CharSet) (c : Char) : a.complement.contains c = !a.contains c :=
  contains_sample (.not (.edges (List.Subset.refl _))) c

theorem contains_unionAll (sets : List CharSet) (c : Char) :
    (unionAll sets).contains c = sets.any (·.contains c) := by
  induction sets with
  | nil => rfl
  | cons set sets ih => rw [unionAll, List.foldr_cons, contains_union, ← unionAll, ih, List.any_cons]

theorem contains_ofRanges (ranges : List (Char × Char)) (c : Char) :
    (ofRanges ranges).contains c = ranges.any fun (first, last) => decide (first ≤ c) && decide (c ≤ last) := by
  rw [ofRanges, contains_unionAll, List.any_map]
  congr
  funext (first, last)
  exact contains_range first last c

theorem contains_folded (a : CharSet) (c : Char) :
    a.folded.contains c = (a.contains c || a.otherCases.contains c) := by
  rw [folded, contains_sample]
  · have mapped : (a.otherCases.map fun c => placeOf c.toNat).contains (placeOf c.toNat) = a.otherCases.contains c := by
      rw [Bool.eq_iff_iff, List.contains_iff_mem, List.contains_iff_mem, List.mem_map]
      simp only [placeOf_inj, exists_eq_right]
    rw [mapped]
    rfl
  · refine .op (· || ·) (.edges (List.subset_append_left _ _)) (.members ?_ ?_)
    all_goals
      intro place member
      exact List.mem_append_right _ (List.mem_flatMap.mpr ⟨place, member, by simp⟩)

theorem swapAsciiCase_of_le {c : Char} (large : 128 ≤ c.toNat) : swapAsciiCase c = c := by
  have above (bound : UInt32) (low : bound.toNat < 128) : ¬c.val ≤ bound := fun below => by
    have reached := UInt32.le_iff_toNat_le.mp below
    change c.toNat ≤ bound.toNat at reached
    omega
  have upper : c.isUpper = false := decide_eq_false fun upper => above 90 (by decide) upper.2
  have kept : c.toUpper = c := dif_neg fun lower => above 122 (by decide) lower.2
  rw [swapAsciiCase, upper, kept]
  rfl

theorem contains_asciiFolded (a : CharSet) (c : Char) :
    a.asciiFolded.contains c = (a.contains c || a.contains (swapAsciiCase c)) := by
  rw [asciiFolded, contains_sample, charAt_placeOf]
  · rfl
  · intro m n below bounded same
    have early (place : Nat) (within : place < 129) : place ≤ m ↔ place ≤ n :=
      same place (List.mem_append_right _ (List.mem_range.mpr within))
    have edges := inside_congr fun edge member => same edge (List.mem_append_left _ member)
    -- Up to the last ASCII character every place is given; behind it no character is swapped.
    by_cases last : m < 128
    · have stops := early (m + 1) (by omega)
      rw [show m = n by omega]
    · have fixed (place : Nat) (large : 128 ≤ place) (bounded : place < charCount) :
          placeOf (swapAsciiCase (charAt place)).toNat = place := by
        rw [swapAsciiCase_of_le, placeOf_charAt bounded]
        rw [toNat_charAt bounded]
        unfold codePointAt
        split <;> omega
      simp only [fixed m (by omega) (by omega), fixed n (by omega) bounded, edges]

/-! ### Named sets -/

/-- A test that gives the same wherever no turn lies between has exactly the members that pass it. -/
theorem contains_ofTest {test : Char → Bool} (constant : ∀ {c d}, Unicode.Together c d → test c = test d) (c : Char) :
    (ofTest test).contains c = test c := by
  rw [ofTest, contains_sample, charAt_placeOf]
  intro m n below bounded same
  apply constant
  intro turn member
  have side := same (placeOf turn) (List.mem_map_of_mem member)
  rwa [placeOf_le, placeOf_le, ← toNat_charAt (Nat.lt_of_le_of_lt below bounded), ← toNat_charAt bounded] at side

theorem contains_ofPerl (name : PerlClass) (c : Char) : (ofPerl name).contains c =
    match name with
    | .digit => Unicode.isDecimal c
    | .space => Unicode.isBlank c
    | .word => Unicode.isWordChar c := by
  cases name with
  | digit => exact contains_ofTest (·.isDecimal) c
  | space => exact contains_ofTest (·.isBlank) c
  | word => exact contains_ofTest (·.isWordChar) c

theorem contains_ofProperty (p : Unicode.Property) (c : Char) : (ofTest p.contains).contains c = p.contains c :=
  contains_ofTest (·.property p) c

/-! ### One set for the same characters -/

theorem edges_unique {as bs : List Nat} (increasing : as.Pairwise (· < ·)) (increasing' : bs.Pairwise (· < ·))
    (bounded : ∀ edge ∈ as, edge < charCount) (bounded' : ∀ edge ∈ bs, edge < charCount)
    (same : ∀ place < charCount, inside as place = inside bs place) : as = bs := by
  induction as generalizing bs with
  | nil =>
    cases bs with
    | nil => rfl
    | cons b bs =>
      have first := same b (bounded' b List.mem_cons_self)
      simp [inside, inside_before (List.pairwise_cons.mp increasing').1] at first
  | cons a as ih =>
    obtain ⟨above, rest⟩ := List.pairwise_cons.mp increasing
    cases bs with
    | nil =>
      have first := same a (bounded a List.mem_cons_self)
      simp [inside, inside_before above] at first
    | cons b bs =>
      obtain ⟨above', rest'⟩ := List.pairwise_cons.mp increasing'
      have first := same a (bounded a List.mem_cons_self)
      have second := same b (bounded' b List.mem_cons_self)
      have start : a = b := by
        rcases Nat.lt_trichotomy a b with before | equal | behind
        · simp [inside, inside_before above, Nat.not_le.mpr before] at first
        · exact equal
        · simp [inside, inside_before above', Nat.not_le.mpr behind] at second
      subst start
      refine congrArg _ (ih rest rest' (fun edge member => bounded edge (List.mem_cons_of_mem a member))
        (fun edge member => bounded' edge (List.mem_cons_of_mem a member)) fun place within => ?_)
      have both := same place within
      by_cases reached : a ≤ place
      · simpa [inside, reached] using both
      · rw [inside_before fun edge member => Nat.lt_trans (Nat.not_le.mp reached) (above edge member),
          inside_before fun edge member => Nat.lt_trans (Nat.not_le.mp reached) (above' edge member)]

/-- Sets that contain the same characters are equal. -/
theorem ext_contains {a b : CharSet} (same : ∀ c, a.contains c = b.contains c) : a = b := by
  have edges : a.edges = b.edges := by
    apply edges_unique a.increasing b.increasing a.bounded b.bounded
    intro place within
    have both := same (charAt place)
    rwa [contains, contains, placeOf_charAt within] at both
  cases a
  cases b
  simpa using edges

/-! ### Single characters -/

theorem stretches_one {edges : List Nat} {first past : Nat} (one : stretches edges = [(first, past)]) :
    (edges = [first] ∧ past = charCount) ∨ edges = [first, past] := by
  match edges, one with
  | [_], one => exact .inl (by simpa [stretches, eq_comm] using one)
  | [_, _], one => exact .inr (by simpa [stretches] using one)
  | _ :: _ :: [_], one => simp [stretches] at one
  | _ :: _ :: _ :: _ :: _, one => simp [stretches] at one

/-- What is inside of one stretch of one place. -/
theorem inside_one {first past place : Nat} (next : past = first + 1) :
    inside [first, past] place = decide (place = first) := by
  rw [Bool.eq_iff_iff]
  simp only [inside, next, Bool.not_false, Bool.and_true, Bool.and_eq_true, Bool.not_eq_true', decide_eq_true_eq,
    decide_eq_false_iff_not]
  omega

/-- What is inside of the stretch of the last place of all. -/
theorem inside_last {first place : Nat} (last : first + 1 = charCount) (bounded : place < charCount) :
    inside [first] place = decide (place = first) := by
  rw [inside, inside, Bool.not_false, Bool.and_true, decide_eq_decide]
  omega

theorem single_edges (c : Char) : (single c).edges =
    if placeOf c.toNat + 1 = charCount then [placeOf c.toNat] else [placeOf c.toNat, placeOf c.toNat + 1] := by
  have within := placeOf_lt c
  have holds : ∀ place < charCount, inside (single c).edges place = decide (place = placeOf c.toNat) := by
    intro place bounded
    have member : (single c).contains (charAt place) = true ↔ c = charAt place := contains_single
    rw [contains, placeOf_charAt bounded, ← placeOf_inj, placeOf_charAt bounded] at member
    rw [Bool.eq_iff_iff, member, decide_eq_true_eq, eq_comm]
  split
  · next last =>
    refine edges_unique (single c).increasing (by simp) (single c).bounded (by simpa using within)
      fun place bounded => ?_
    rw [holds place bounded, inside_last last bounded]
  · refine edges_unique (single c).increasing (by simp) (single c).bounded (by simp; omega)
      fun place bounded => ?_
    rw [holds place bounded, inside_one rfl]

/-- A set is that of one character if it has one stretch, of one place. -/
theorem isSingle_iff (set : CharSet) : set.isSingle = true ↔ ∃ c, set = single c := by
  constructor
  · intro one
    unfold isSingle at one
    split at one
    · next first past found =>
      have next : past = first + 1 := by simpa using one
      have within : first < charCount ∧ ∀ place < charCount, inside set.edges place = decide (place = first) := by
        rcases stretches_one found with ⟨edges, last⟩ | edges
        · have final : first + 1 = charCount := next.symm.trans last
          exact ⟨by omega, fun place bounded => edges ▸ inside_last final bounded⟩
        · exact ⟨set.bounded first (by simp [edges]), fun place _ => edges ▸ inside_one next⟩
      refine ⟨charAt first, ext_contains fun c => ?_⟩
      rw [Bool.eq_iff_iff, contains_single, contains, within.2 _ (placeOf_lt c), decide_eq_true_eq, ← placeOf_inj,
        placeOf_charAt within.1, eq_comm]
    · simp at one
  · rintro ⟨c, rfl⟩
    rw [isSingle, single_edges]
    by_cases last : placeOf c.toNat + 1 = charCount
    · simp [last, stretches]
    · simp [last, stretches]

end CharSet
end Lexicon.Regex

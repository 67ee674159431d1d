import Lexicon.Proofs.Regex.Reading.Literal
import Lexicon.Proofs.Registry.Source
import Lexicon.Regex.Standard

/-! Which definition a match belongs to: the number recorded for a definition against the number of the group around
it. -/
namespace Lexicon
open Regex (Piece Expr Tree read ofExpr)

namespace Pattern

/-- How many groups are lost at the end of a pattern: those behind the last one that is in no part that is repeated
no time. -/
def lostGroups (p : Pattern) : Nat :=
  match read false p.source.toList with
  | .error _ => 0
  | .ok reading => (reading.tree.groups.reverse.takeWhile reading.tree.omitted.contains).length

variable [Regex.Engine] {p : Pattern}

/-- A literal, or a regular expression compiled from its source. -/
def Made (p : Pattern) : Prop := (∃ text, p = .literal text) ∨ ∃ source, ofRegex source = .ok p

theorem ofRegex_ok {source : String} (made : ofRegex source = .ok p) :
    ∃ re, Regex.compile source = .ok re ∧ p = .regex re ∧ re.source = source := by
  unfold ofRegex PatternError.guard at made
  cases compiled : Regex.compile source with
  | error e => simp [compiled, Except.map] at made
  | ok re =>
    simp only [compiled, Except.map, Except.ok.injEq] at made
    obtain ⟨reading, expr, flags, -, -, -, same⟩ := Regex.compile_ok compiled
    exact ⟨re, rfl, made.symm, by rw [same]; rfl⟩

theorem Made.piece (made : p.Made) : ∃ piece : Piece, piece.text = p.source.toList := by
  rcases made with ⟨text, rfl⟩ | ⟨source, made⟩
  · obtain ⟨piece, text, -⟩ := Piece.ofLiteral text
    exact ⟨piece, text⟩
  · obtain ⟨re, compiled, rfl, same⟩ := ofRegex_ok made
    obtain ⟨piece, text, -⟩ := Piece.ofCompiled compiled
    exact ⟨piece, by rw [text, Pattern.source, same]⟩

end Pattern

/-- What is read of a pattern, and what it means, is determined by its text. -/
theorem Regex.Piece.unique [Regex.Engine] {first second : Piece} (same : first.text = second.text) :
    first.reading = second.reading ∧ first.expr = second.expr := by
  have reading : first.reading = second.reading := by
    have left := first.read
    rw [same, second.read, Except.ok.injEq] at left
    exact left.symm
  refine ⟨reading, ?_⟩
  have left := first.lowered
  rw [reading, second.lowered, Except.ok.injEq, Prod.mk.injEq] at left
  exact left.1.symm

/-- Of numbers from one on, those behind a number that stays are at the end. -/
theorem length_takeWhile_range' {gone : Nat → Bool} {last count : Nat} (within : last ≤ count)
    (stays : last = 0 ∨ gone last = false) (behind : ∀ number, last < number → number ≤ count → gone number = true) :
    last + ((List.range' 1 count).reverse.takeWhile gone).length = count := by
  induction count with
  | zero => simpa using within
  | succ count ih =>
    rw [List.range'_1_concat, List.reverse_append, List.reverse_singleton, List.singleton_append, Nat.add_comm 1 count]
    rcases Nat.lt_or_eq_of_le within with before | same
    · rw [List.takeWhile_cons_of_pos (behind _ before (Nat.le_refl _)), List.length_cons, ← Nat.add_assoc,
        ih (Nat.le_of_lt_succ before) fun number above below => behind number above (Nat.le_succ_of_le below)]
    · have kept : gone (count + 1) = false := by
        rcases stays with none | kept
        · omega
        · exact same ▸ kept
      rw [List.takeWhile_cons_of_neg (by simp [kept]), same]
      rfl

/-- The groups that are read of a pattern are those counted once it is compiled, and those lost at its end. -/
theorem Pattern.Made.captures [Regex.Engine] {p : Pattern} (made : p.Made) {piece : Piece}
    (text : piece.text = p.source.toList) : piece.reading.captures = p.innerGroups + p.lostGroups := by
  have numbers := Regex.read_groups piece.read
  have distinct : piece.reading.tree.groups.Nodup := by
    rw [numbers]
    exact List.nodup_range'
  have parted := piece.reading.tree.lower_omitted distinct piece.lowered
  have apart : piece.expr.groups.Disjoint piece.reading.tree.omitted :=
    List.disjoint_of_nodup_append (parted.nodup_iff.mpr distinct)
  have lost : p.lostGroups =
      ((List.range' 1 piece.reading.captures).reverse.takeWhile piece.reading.tree.omitted.contains).length := by
    rw [Pattern.lostGroups, ← text, piece.read, ← numbers]
  have inner : p.innerGroups = piece.expr.highestGroup := by
    rcases made with ⟨exact, rfl⟩ | ⟨source, made⟩
    · obtain ⟨other, same, escapes⟩ := Piece.ofLiteral exact
      have none := (Piece.unique (text.trans same.symm)).1 ▸ escapes.captures
      rcases piece.expr.highestGroup_mem with zero | member
      · exact zero.symm
      · have bounds := piece.groups_bounds member
        omega
    · obtain ⟨re, compiled, rfl, same⟩ := Pattern.ofRegex_ok made
      obtain ⟨other, otherText, built⟩ := Piece.ofCompiled compiled
      rw [Pattern.source, same] at text
      rw [(Piece.unique (text.trans otherText.symm)).2, Pattern.innerGroups, built]
      exact Nat.add_sub_cancel _ _
  rw [inner, lost, length_takeWhile_range']
  · rcases piece.expr.highestGroup_mem with zero | member
    · omega
    · exact (piece.groups_bounds member).2
  · refine piece.expr.highestGroup_mem.imp_right fun member => ?_
    simpa using apart member
  · intro number above below
    have read : number ∈ piece.reading.tree.groups := by
      rw [numbers, List.mem_range'_1]
      omega
    rcases List.mem_append.mp (parted.mem_iff.mpr read) with kept | gone
    · exact absurd (Expr.le_highestGroup kept) (Nat.not_le.mpr above)
    · exact List.contains_iff_mem.mpr gone

namespace Registry
variable {σ κ ν : Type} {definitions : List (Definition σ κ ν)} {r : Registry σ κ ν}

theorem assign_getElem? (next : Nat) (definitions : List (Definition σ κ ν)) (index : Nat) :
    (assign next definitions)[index]? = definitions[index]?.map fun d =>
      ⟨next + ((definitions.take index).map fun d => d.pattern.innerGroups + 1).sum, d⟩ := by
  induction definitions generalizing next index with
  | nil => rfl
  | cons d rest ih =>
    cases index with
    | zero => rfl
    | succ index =>
      have before : next + 1 + d.pattern.innerGroups = next + (d.pattern.innerGroups + 1) := by omega
      rw [assign, List.getElem?_cons_succ, List.getElem?_cons_succ, ih, List.take_succ_cons, List.map_cons,
        List.sum_cons, before, Nat.add_assoc next]

theorem firing_at {locations : Regex.Locations} {length start index : Nat} {slots : List (Slot σ κ ν)}
    {slot : Slot σ κ ν} (found : slots[index]? = some slot) (present : locations.contains slot.group = true)
    (absent : ∀ earlier ∈ slots.take index, locations.contains earlier.group = false) :
    firing locations length start slots = some ⟨start + index, slot.definition, length⟩ := by
  induction slots generalizing start index with
  | nil => simp at found
  | cons first rest ih =>
    cases index with
    | zero =>
      cases found
      rw [firing, if_pos present, Nat.add_zero]
    | succ index =>
      have passed : ¬locations.contains first.group = true := by simp [absent first (by simp)]
      rw [firing, if_neg passed, ih found fun earlier member => absent earlier (by simp [member]), Nat.add_right_comm,
        Nat.add_assoc]

theorem firing_some {locations : Regex.Locations} {length start : Nat} {slots : List (Slot σ κ ν)} {hit : Hit σ κ ν}
    (fired : firing locations length start slots = some hit) : ∃ index slot, hit.index = start + index ∧
      slots[index]? = some slot ∧ locations.contains slot.group = true := by
  induction slots generalizing start with
  | nil => simp [firing] at fired
  | cons first rest ih =>
    unfold firing at fired
    split at fired
    · next present =>
      cases fired
      exact ⟨0, first, rfl, rfl, present⟩
    · obtain ⟨index, slot, place, found, present⟩ := ih fired
      exact ⟨index + 1, slot, by omega, found, present⟩

theorem matchStart_find (r : Registry σ κ ν) (locations : Regex.Locations) (rest : List Char) :
    (r.matchStart locations rest).1 =
      (r.matcher.find rest).bind fun m => firing ⟨m.groups⟩ (m.start + m.length) 0 r.slots := by
  simp only [matchStart, Regex.findInto]
  cases r.matcher.find rest <;> rfl

theorem lost_none {before : List (Definition σ κ ν)} :
    (before.map fun d => d.pattern.lostGroups).sum = 0 ↔ ∀ d ∈ before, d.pattern.lostGroups = 0 := by
  rw [List.sum_eq_zero_iff_forall_eq_nat]
  simp

section
variable [Regex.Engine] {pieces : List Piece}

/-- The number recorded for a definition is behind the number of the group around it by the groups that the definitions
before lose. -/
theorem wrapper_eq (made : ∀ d ∈ definitions, d.pattern.Made) (built : build definitions = .ok r) {index : Nat}
    {slot : Slot σ κ ν} (found : r.slots[index]? = some slot) : wrapper? definitions index =
      some (slot.group + ((definitions.take index).map fun d => d.pattern.lostGroups).sum) := by
  obtain ⟨pieces, sources⟩ := exists_sources fun d member => (made d member).piece
  have combines := build_combines built sources
  rw [(build_ok built).2.2, assign_getElem?, Option.map_eq_some_iff] at found
  obtain ⟨d, placed, rfl⟩ := found
  obtain ⟨piece, own, -⟩ := sources.getElem? placed
  have inside := (List.getElem?_eq_some_iff.mp own).1
  have each : ∀ d ∈ definitions, ∀ piece : Piece, piece.text = d.pattern.source.toList →
      piece.reading.captures + 1 = d.pattern.innerGroups + 1 + d.pattern.lostGroups := by
    intro d member piece text
    have total := (made d member).captures text
    omega
  rw [combines.wrapper index inside, Piece.groupsBefore, sources.sum_take each, List.sum_map_add]
  simp only [Option.some.injEq]
  omega

theorem Combines.find {matcher : Regex} (combines : Combines definitions pieces matcher) (rest : List Char) :
    matcher.find rest = (Expr.firstMatch (Piece.branches 0 pieces) none rest).map fun found =>
      ⟨0, found.1, found.2⟩ := by
  rw [combines.matcher, Regex.find_behindStart (Expr.wrapped_atomic _).normal, ← Expr.matchHere_wrapped_outcome,
    Option.map_map]
  rfl

/-- A match of the pattern at an index, with the groups that take part. -/
structure Matched (pieces : List Piece) (rest : List Char) (index : Nat) (piece : Piece) (t : Regex.Thread) : Prop where
  found : pieces[index]? = some piece
  matched : Regex.matchHere (piece.expr.renumber (· + (Piece.groupsBefore 0 pieces index + 1))).program none rest =
    some t

theorem Combines.find_some {matcher : Regex} (combines : Combines definitions pieces matcher) {rest : List Char}
    {m : Regex.Match} (found : matcher.find rest = some m) : ∃ index piece t, Matched pieces rest index piece t ∧
      m = ⟨0, t.taken, (Piece.groupsBefore 0 pieces index + 1) :: t.groups⟩ ∧
      ∀ earlier ∈ pieces.take index, Regex.matchHere earlier.expr.program none rest = none := by
  rw [combines.find, Option.map_eq_some_iff] at found
  obtain ⟨⟨taken, groups⟩, first, rfl⟩ := found
  obtain ⟨index, branch, t, placed, matched, rfl, rfl, missed⟩ := Expr.firstMatch_some first
  rw [Piece.branches_getElem?, Option.map_eq_some_iff] at placed
  obtain ⟨piece, own, rfl⟩ := placed
  refine ⟨index, piece, t, ⟨own, matched⟩, rfl, fun earlier member => ?_⟩
  obtain ⟨place, lower, rfl⟩ := List.mem_take_iff_getElem.mp member
  have branch := Piece.branches_getElem? 0 pieces place
  rw [List.getElem?_eq_getElem (show place < pieces.length by omega), Option.map_some] at branch
  have among := List.mem_of_getElem? ((List.getElem?_take_of_lt (show place < index by omega)).trans branch)
  have none := missed _ among
  rwa [Regex.matchHere_renumber, Option.map_eq_none_iff] at none

/-- The pattern that matches is reported if the numbers up to its own are those of the groups. -/
theorem Matched.firing {rest : List Char} {index : Nat} {piece : Piece} {t : Regex.Thread}
    (matched : Matched pieces rest index piece t) (slots : r.slots = assign 1 definitions)
    (numbers : ∀ other ≤ index, ∀ slot, r.slots[other]? = some slot →
      slot.group = Piece.groupsBefore 0 pieces other + 1)
    {d : Definition σ κ ν} (placed : definitions[index]? = some d) (length : Nat) :
    Registry.firing ⟨(Piece.groupsBefore 0 pieces index + 1) :: t.groups⟩ length 0 r.slots =
      some ⟨index, d, length⟩ := by
  obtain ⟨inside, -⟩ := List.getElem?_eq_some_iff.mp matched.found
  have slot : r.slots[index]? =
      some ⟨1 + ((definitions.take index).map fun d => d.pattern.innerGroups + 1).sum, d⟩ := by
    rw [slots, assign_getElem?, placed]
    rfl
  rw [firing_at slot, Nat.zero_add]
  · rw [numbers index (Nat.le_refl _) _ slot]
    simp [Regex.Locations.contains]
  · intro earlier member
    obtain ⟨other, taken⟩ := List.getElem?_of_mem member
    rw [List.getElem?_take] at taken
    split at taken
    · next before =>
      have within : other < pieces.length := Nat.lt_trans before inside
      have apart := (Piece.wrapper_mem matched.found within matched.matched).not.mpr (Nat.ne_of_lt before)
      rw [numbers other (Nat.le_of_lt before) earlier taken, Regex.Locations.contains]
      simpa using apart
    · simp at taken

/-- The number recorded for a definition is that of the group around it, and a match of the definition is reported as
one, exactly if no definition before it loses groups at its end. -/
theorem attribution_exact (made : ∀ d ∈ definitions, d.pattern.Made) (built : build definitions = .ok r) :
    (∀ index slot, r.slots[index]? = some slot → (wrapper? definitions index = some slot.group ↔
      ∀ earlier ∈ definitions.take index, earlier.pattern.lostGroups = 0)) ∧
    ∀ rest m, r.matcher.find rest = some m → ∃ index d, definitions[index]? = some d ∧
      (∀ other < definitions.length,
        (∃ number ∈ m.groups, wrapper? definitions other = some number) ↔ other = index) ∧
      ∀ locations, (r.matchStart locations rest).1 = some ⟨index, d, m.start + m.length⟩ ↔
        ∀ earlier ∈ definitions.take index, earlier.pattern.lostGroups = 0 := by
  constructor
  · intro index slot found
    rw [wrapper_eq made built found, ← lost_none, Option.some.injEq]
    omega
  · intro rest m matched
    obtain ⟨pieces, sources⟩ := exists_sources fun d member => (made d member).piece
    have combines := build_combines built sources
    have slots := (build_ok built).2.2
    obtain ⟨index, piece, t, hit, same, -⟩ := combines.find_some matched
    obtain ⟨inside, -⟩ := List.getElem?_eq_some_iff.mp hit.found
    have within : index < definitions.length := sources.length ▸ inside
    have number (other : Nat) (slot : Slot σ κ ν) (found : r.slots[other]? = some slot)
        (bound : other < pieces.length) :=
      (combines.wrapper other bound).symm.trans (wrapper_eq made built found)
    refine ⟨index, definitions[index], List.getElem?_eq_getElem within, ?_, fun locations => ?_⟩
    · intro other bound
      have inside : other < pieces.length := sources.length ▸ bound
      rw [combines.wrapper other inside, ← Piece.wrapper_mem hit.found inside hit.matched, same]
      simp
    · rw [matchStart_find, matched, Option.bind_some, same]
      constructor
      · intro fired
        obtain ⟨place, slot, reported, recorded, present⟩ := firing_some fired
        simp only [Nat.zero_add] at reported
        subst reported
        rw [Regex.Locations.contains, List.contains_iff_mem] at present
        have lowest := (Piece.match_bounds hit.found hit.matched present).1
        have numbers := number index slot recorded inside
        rw [Option.some.injEq] at numbers
        exact lost_none.mp (by omega)
      · intro kept
        apply hit.firing slots
        · intro other upTo slot found
          have numbers := number other slot found (Nat.lt_of_le_of_lt upTo inside)
          have none : ∀ earlier ∈ definitions.take other, earlier.pattern.lostGroups = 0 := fun earlier member =>
            kept earlier ((List.take_sublist_take_left upTo).subset member)
          rw [lost_none.mpr none, Nat.add_zero, Option.some.injEq] at numbers
          exact numbers.symm
        · exact List.getElem?_eq_getElem within

end

/-- Three definitions, the first of them a regular expression. -/
def groupDefinitions (source : String) : List (Definition Unit String Int) :=
  [⟨(Pattern.ofRegex source).toOption.getD (.literal ""), .token "first"⟩, ⟨.literal "c", .token "second"⟩,
    ⟨.literal "d", .token "third"⟩]

theorem groupDefinitions_made {source : String} (compiles : ((Pattern.ofRegex source).toOption).isSome) :
    ∀ d ∈ groupDefinitions source, d.pattern.Made := by
  intro d member
  simp only [groupDefinitions, List.mem_cons, List.not_mem_nil, or_false] at member
  rcases member with rfl | rfl | rfl
  · cases made : Pattern.ofRegex source with
    | error e => simp [made, Except.toOption] at compiles
    | ok p => exact .inr ⟨source, made⟩
  · exact .inl ⟨"c", rfl⟩
  · exact .inl ⟨"d", rfl⟩

/-- The first definition has a group that is repeated no time, and behind it one that may be left out of a match. -/
def optionalDefinitions : List (Definition Unit String Int) := groupDefinitions "b(a)\x7b0\x7d(e)?"

theorem attribution_exact_optional : ∃ r, (∀ d ∈ optionalDefinitions, d.pattern.Made) ∧
    build optionalDefinitions = .ok r ∧ ∃ slot, r.slots[1]? = some slot ∧ slot.group = 4 ∧
      wrapper? optionalDefinitions 1 = some slot.group := by
  have made := groupDefinitions_made (show ((Pattern.ofRegex "b(a)\x7b0\x7d(e)?").toOption).isSome by decide +kernel)
  have recorded : (build optionalDefinitions).toOption.bind (fun r => (r.slots[1]?).map (·.group)) = some 4 := by
    decide +kernel
  have kept : ∀ earlier ∈ optionalDefinitions.take 1, earlier.pattern.lostGroups = 0 := by decide +kernel
  rcases built : build optionalDefinitions with _ | r
  · simp [built, Except.toOption] at recorded
  · rw [built] at recorded
    obtain ⟨slot, found, number⟩ := Option.map_eq_some_iff.mp recorded
    exact ⟨r, made, rfl, slot, found, number, ((attribution_exact made built).1 1 slot found).mpr kept⟩

/-- The first definition has a group that is repeated no time. -/
def omittingDefinitions : List (Definition Unit String Int) := groupDefinitions "b(a)\x7b0\x7d"

/-- Behind a group that is repeated no time the second definition is recorded with the number of that group, and its
match is reported as one of the third. -/
theorem attribution_behind_omitted : ∃ r, (∀ d ∈ omittingDefinitions, d.pattern.Made) ∧
    build omittingDefinitions = .ok r ∧ r.slots.map (·.group) = [1, 2, 3] ∧
      wrapper? omittingDefinitions 1 = some 3 ∧ wrapper? omittingDefinitions 2 = some 4 ∧
      (r.matcher.find ['c']).map (·.groups) = some [3] ∧
      ((r.matchStart .empty ['c']).1.map fun hit => (hit.index, hit.length)) = some (2, 1) := by
  have made := groupDefinitions_made (show ((Pattern.ofRegex "b(a)\x7b0\x7d").toOption).isSome by decide +kernel)
  have outcome : (build omittingDefinitions).toOption.map (fun r => decide (r.slots.map (·.group) = [1, 2, 3] ∧
      wrapper? omittingDefinitions 1 = some 3 ∧ wrapper? omittingDefinitions 2 = some 4 ∧
      (r.matcher.find ['c']).map (·.groups) = some [3] ∧
      ((r.matchStart .empty ['c']).1.map fun hit => (hit.index, hit.length)) = some (2, 1))) = some true := by
    decide +kernel
  rcases built : build omittingDefinitions with _ | r
  · simp [built, Except.toOption] at outcome
  · rw [built] at outcome
    simp only [Except.toOption, Option.map_some, Option.some.injEq, decide_eq_true_eq] at outcome
    exact ⟨r, made, rfl, outcome⟩

end Registry
end Lexicon

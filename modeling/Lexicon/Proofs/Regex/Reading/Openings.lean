import Lexicon.Proofs.Regex.Meaning
import Lexicon.Proofs.Regex.Reading.Group

/-! Groups are numbered from one on, in the order in which they open, and no two of them have the same name. -/
namespace Lexicon.Regex

mutual
/-- Where the groups that capture open, with their numbers, in the order of the pattern. -/
def Tree.openings : Tree → List (Nat × Nat)
  | .repetition _ _ _ body => body.openings
  | .group span kind body => kind.index?.toList.map (span.start, ·) ++ body.openings
  | .alternation _ trees | .concat _ trees => Tree.openingsAll trees
  | _ => []

def Tree.openingsAll : List Tree → List (Nat × Nat)
  | [] => []
  | tree :: trees => tree.openings ++ Tree.openingsAll trees
end

mutual
theorem Tree.openings_groups : (t : Tree) → t.openings.map (·.2) = t.groups
  | .empty _ | .flags _ _ | .literal _ | .dot _ | .anchor _ _ | .property _ _ _ | .perl _ _ _
  | .bracket _ _ _ => rfl
  | .repetition _ _ _ body => Tree.openings_groups body
  | .group _ kind body => by
    rw [Tree.openings, Tree.groups, List.map_append, Tree.openings_groups body]
    cases kind <;> rfl
  | .alternation _ trees | .concat _ trees => Tree.openingsAll_groups trees

theorem Tree.openingsAll_groups : (trees : List Tree) →
    (Tree.openingsAll trees).map (·.2) = Tree.groupsAll trees
  | [] => rfl
  | tree :: trees => by
    rw [Tree.openingsAll, Tree.groupsAll, List.map_append, Tree.openings_groups tree,
      Tree.openingsAll_groups trees]
end

/-- The head of a group that captures: where it opens, with its number. -/
def opening? (head : Nat × GroupKind) : Option (Nat × Nat) := head.2.index?.map (head.1, ·)

mutual
theorem Tree.openings_heads : (t : Tree) → t.openings = t.heads.filterMap opening?
  | .empty _ | .flags _ _ | .literal _ | .dot _ | .anchor _ _ | .property _ _ _ | .perl _ _ _
  | .bracket _ _ _ => rfl
  | .repetition _ _ _ body => Tree.openings_heads body
  | .group _ kind body => by
    rw [Tree.openings, Tree.heads, Tree.openings_heads body]
    cases kind <;> rfl
  | .alternation _ trees | .concat _ trees => Tree.openingsAll_heads trees

theorem Tree.openingsAll_heads : (trees : List Tree) →
    Tree.openingsAll trees = (Tree.headsAll trees).filterMap opening?
  | [] => rfl
  | tree :: trees => by
    rw [Tree.openingsAll, Tree.headsAll, List.filterMap_append, Tree.openings_heads tree,
      Tree.openingsAll_heads trees]
end

/-- What opened up to an open group, and the group itself. -/
def OpenGroup.openings (g : OpenGroup) : List (Nat × Nat) :=
  g.branches.reverse.flatMap Tree.openings ++ g.parts.reverse.flatMap Tree.openings ++
    g.kind.index?.toList.map (g.offset, ·)

/-- The name that a group declares. -/
def GroupKind.name? : GroupKind → Option String
  | .named _ name => some name
  | .capture _ | .plain _ => none

/-- The names that the groups of a tree declare, in the order of the pattern. -/
def Tree.names (t : Tree) : List String := t.heads.filterMap (·.2.name?)

namespace Reader

/-- Where groups opened so far, with their numbers, in the order of the pattern. -/
def openings (r : Reader) : List (Nat × Nat) :=
  r.groups.reverse.flatMap OpenGroup.openings ++
    (r.branches.reverse.flatMap Tree.openings ++ r.parts.reverse.flatMap Tree.openings)

theorem openings_heads (r : Reader) : r.openings = r.heads.filterMap opening? := by
  have tree : Tree.openings = fun tree => tree.heads.filterMap opening? := funext Tree.openings_heads
  have group : OpenGroup.openings = fun g => g.heads.filterMap opening? := by
    funext g
    have own : g.kind.index?.toList.map (g.offset, ·) = [(g.offset, g.kind)].filterMap opening? := by
      simp only [List.filterMap_cons, List.filterMap_nil, opening?]
      cases g.kind.index? <;> rfl
    simp only [OpenGroup.openings, OpenGroup.heads, List.filterMap_append, List.filterMap_flatMap, tree, own]
  simp only [Reader.openings, Reader.heads, List.filterMap_append, List.filterMap_flatMap, tree, group]

variable {r r' : Reader}

/-- The groups so far have the numbers from one on, and all opened before the tape. -/
structure Numbered (r : Reader) : Prop where
  numbers : r.openings.map (·.2) = List.range' 1 r.captures
  before : ∀ opening ∈ r.openings, opening.1 < r.tape.offset

theorem numbered_ofList (verbose : Bool) (pattern : List Char) : Numbered (.ofList verbose pattern) where
  numbers := rfl
  before := by simp [Reader.openings, ofList]

theorem Numbered.step (numbered : r.Numbered) (stepped : r.step = .ok r') : r'.Numbered := by
  have onward := (step_follows stepped).1.offset_le
  have old : ∀ opening ∈ r.openings, opening.1 < r'.tape.offset := fun opening member =>
    Nat.lt_of_lt_of_le (numbered.before opening member) onward
  have none (same : r'.openings = r.openings) (captures : r'.captures = r.captures) : r'.Numbered :=
    ⟨by rw [same, captures, numbered.numbers], same ▸ old⟩
  have one {offset : Nat} (behind : offset < r'.tape.offset)
      (opened : r'.openings = r.openings ++ [(offset, r.captures + 1)]) (captures : r'.captures = r.captures + 1) :
      r'.Numbered := by
    constructor
    · rw [opened, captures, List.map_append, numbered.numbers, List.range'_1_concat, Nat.add_comm 1]
      rfl
    · intro opening member
      rw [opened] at member
      rcases List.mem_append.mp member with before | new
      · exact old opening before
      · rw [List.mem_singleton.mp new]
        exact behind
  have openings {added : List (Nat × GroupKind)} (heads : r'.heads = r.heads ++ added) :
      r'.openings = r.openings ++ added.filterMap opening? := by
    rw [openings_heads, openings_heads, heads, List.filterMap_append]
  cases (step_moves stepped).opens with
  | nothing heads captures => exact none (by rw [openings_heads, openings_heads, heads]) captures
  | plain _ heads captures => exact none ((openings heads).trans (List.append_nil _)) captures
  | capture behind heads captures => exact one behind (openings heads) captures
  | named behind heads captures => exact one behind (openings heads) captures

theorem Numbered.reaches (numbered : r.Numbered) (reaches : Reaches r r') : r'.Numbered := by
  induction reaches with
  | refl => exact numbered
  | step _ stepped _ ih => exact ih (numbered.step stepped)

/-- The names so far, in the order of the pattern. -/
def declaredNames (r : Reader) : List String := (r.names.map (·.1)).reverse

/-- The names so far are those of the groups that opened, and they differ from each other. -/
structure Declared (r : Reader) : Prop where
  names : r.declaredNames = r.heads.filterMap (·.2.name?)
  distinct : r.declaredNames.Nodup

theorem declared_ofList (verbose : Bool) (pattern : List Char) : Declared (.ofList verbose pattern) :=
  ⟨rfl, List.nodup_nil⟩

theorem Declared.step (declared : r.Declared) (stepped : r.step = .ok r') : r'.Declared := by
  have none {added : List (Nat × GroupKind)} (heads : r'.heads = r.heads ++ added)
      (unnamed : added.filterMap (·.2.name?) = []) (names : r'.names = r.names) : r'.Declared := by
    have same : r'.declaredNames = r.declaredNames := by rw [declaredNames, names, declaredNames]
    refine ⟨?_, same ▸ declared.distinct⟩
    rw [same, heads, List.filterMap_append, unnamed, List.append_nil, declared.names]
  cases (step_moves stepped).opens with
  | nothing heads _ names => exact none (heads.trans (List.append_nil _).symm) rfl names
  | plain _ heads _ names | capture _ heads _ names => exact none heads rfl names
  | @named _ name _ _ heads _ names fresh =>
    have more : r'.declaredNames = r.declaredNames ++ [name] := by
      rw [declaredNames, names, List.map_cons, List.reverse_cons, declaredNames]
    constructor
    · rw [more, heads, List.filterMap_append, declared.names]
      rfl
    · rw [more, (List.perm_append_singleton _ _).nodup_iff, List.nodup_cons]
      exact ⟨fun again => fresh (List.mem_reverse.mp again), declared.distinct⟩

theorem Declared.reaches (declared : r.Declared) (reaches : Reaches r r') : r'.Declared := by
  induction reaches with
  | refl => exact declared
  | step _ stepped _ ih => exact ih (declared.step stepped)

/-- Outside of all groups the names so far are those of what was read. -/
theorem Declared.contents (declared : r.Declared) (outside : r.groups = []) (stop : Nat) :
    r.declaredNames = (r.contents stop).names := by
  rw [declared.names, Tree.names, contents_heads, Reader.heads, outside]
  rfl

end Reader

section
variable {verbose : Bool} {pattern : List Char} {reading : Reading}

/-- What reading a pattern to its end leads to. -/
theorem read_ok (found : read verbose pattern = .ok reading) :
    ∃ last, (Reader.ofList verbose pattern).runAll = .ok last ∧ last.bracket = none ∧ last.groups = [] ∧
      reading = ⟨last.contents last.tape.offset, last.captures, last.tape.openComment⟩ ∧
      reading.tree.tooDeep 0 = none := by
  unfold read at found
  split at found
  · simp at found
  · next last ran =>
    unfold Reader.finish at found
    cases bracket : last.bracket with
    | some => simp [bracket] at found
    | none =>
      cases groups : last.groups with
      | cons => simp [bracket, groups] at found
      | nil =>
        simp only [bracket, groups] at found
        split at found
        · simp at found
        · next shallow =>
          cases found
          exact ⟨last, ran, bracket, groups, rfl, shallow⟩

theorem read_of_runAll {last : Reader} (ran : (Reader.ofList verbose pattern).runAll = .ok last)
    (bracket : last.bracket = none) (groups : last.groups = [])
    (shallow : (last.contents last.tape.offset).tooDeep 0 = none) : read verbose pattern =
      .ok ⟨last.contents last.tape.offset, last.captures, last.tape.openComment⟩ := by
  unfold read
  have same : Reader.run pattern.length (.ofList verbose pattern) = .ok last := ran
  simp only [same, Reader.finish, bracket, groups, shallow]

/-- The groups of a pattern have the numbers from one on. -/
theorem read_groups (found : read verbose pattern = .ok reading) :
    reading.tree.groups = List.range' 1 reading.captures := by
  obtain ⟨last, ran, -, groups, rfl, -⟩ := read_ok found
  have numbered := (Reader.numbered_ofList verbose pattern).reaches (Reader.runAll_ok ran).1
  rw [← numbered.numbers, ← Tree.openings_groups, Tree.openings_heads, Reader.contents_heads, Reader.openings_heads,
    Reader.heads, groups]
  rfl

/-- The names that a pattern declares differ from each other. -/
theorem read_names (found : read verbose pattern = .ok reading) : reading.tree.names.Nodup := by
  obtain ⟨last, ran, -, groups, rfl, -⟩ := read_ok found
  have declared := (Reader.declared_ofList verbose pattern).reaches (Reader.runAll_ok ran).1
  exact declared.contents groups _ ▸ declared.distinct

end

end Lexicon.Regex

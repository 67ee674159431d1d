import Lexicon.Proofs.Regex.Exploration
import Lexicon.Proofs.Regex.Relocation

/-! One search through an alternation behind the start of the text does what searches for its branches do one
after the other: a block that leads to no match leaves no trace but the places inside of it. -/
namespace Lexicon.Regex

/-- A block of instructions stands at an address of a program. -/
def Placed (program : Array Instr) (base : Nat) (block : List Instr) : Prop :=
  ∀ index, index < block.length → program[base + index]? = block[index]?

namespace Placed
variable {program : Array Instr} {base : Nat} {instr : Instr} {block first second : List Instr}

theorem whole (block : List Instr) : Placed block.toArray 0 block := by
  intro index _
  simp

theorem head (placed : Placed program base (instr :: block)) : program[base]? = some instr := by
  simpa using placed 0 (by simp)

theorem tail (placed : Placed program base (instr :: block)) : Placed program (base + 1) block := by
  intro index inside
  have found := placed (index + 1) (by simpa using inside)
  rwa [← Nat.add_assoc, Nat.add_right_comm, List.getElem?_cons_succ] at found

theorem left (placed : Placed program base (first ++ second)) : Placed program base first := by
  intro index inside
  rw [placed index (by rw [List.length_append]; omega), List.getElem?_append_left inside]

theorem right (placed : Placed program base (first ++ second)) :
    Placed program (base + first.length) second := by
  intro index inside
  rw [Nat.add_assoc, placed (first.length + index) (by rw [List.length_append]; omega),
    List.getElem?_append_right (Nat.le_add_right _ _), Nat.add_sub_cancel_left]

end Placed

namespace Expr

theorem program_inside (e : Expr) {address : Nat} (inside : address < e.size) :
    e.program[address]? = (e.code 0 e.size)[address]? := by
  have whole := (Placed.whole (e.code 0 e.size ++ [Instr.accept])).left address
    (by rwa [code_length])
  rwa [Nat.zero_add] at whole

/-- Up to its end a program goes on inside itself, and marks no group but those of its expression. -/
theorem program_within (e : Expr) {address : Nat} {instr : Instr} (inside : address < e.size)
    (found : e.program[address]? = some instr) : instr.Within 0 e.size e.groups := by
  rw [e.program_inside inside] at found
  exact e.code_within (List.Subset.refl _) 0 e.size (Nat.zero_le 0) (Nat.le_of_eq (Nat.zero_add _)) (Nat.zero_le _)
    (Nat.le_refl _) instr (List.mem_of_getElem? found)

theorem program_end (e : Expr) : e.program[e.size]? = some .accept := by
  have behind := (Placed.whole (e.code 0 e.size ++ [Instr.accept])).right.head
  rwa [code_length, Nat.zero_add] at behind

end Expr

/-- The thread in a program that holds its block further up, with its groups renumbered. -/
def Thread.moved (distance : Nat) (number : Nat → Nat) (t : Thread) : Thread :=
  { t with address := t.address + distance, groups := t.groups.map number }

theorem Thread.follow_moved (distance : Nat) (number : Nat → Nat) (t : Thread) (instr : Instr) :
    (t.moved distance number).follow (instr.moved distance number) =
      (t.follow instr).map (·.moved distance number) := by
  cases instr with
  | chars set next =>
    simp only [follow, Instr.moved, moved]
    cases t.rest with
    | nil => rfl
    | cons c rest => by_cases held : set.contains c = true <;> simp [held]
  | look l next =>
    simp only [follow, Instr.moved, moved]
    by_cases held : l.holds t.before t.rest.head? = true <;> simp [held]
  | split | jump | mark | accept => rfl

/-- A thread goes on at a target of its instruction, with the group that the instruction marks. -/
theorem Thread.follow_mem {t u : Thread} {instr : Instr} (member : u ∈ t.follow instr) :
    u.address ∈ instr.targets ∧ u.groups = instr.group?.toList ++ t.groups := by
  cases instr with
  | chars set next =>
    simp only [follow] at member
    split at member
    · simp at member
    · split at member
      · rw [List.mem_singleton] at member
        subst member
        exact ⟨List.mem_singleton_self next, rfl⟩
      · simp at member
  | look l next =>
    simp only [follow] at member
    split at member
    · rw [List.mem_singleton] at member
      subst member
      exact ⟨List.mem_singleton_self next, rfl⟩
    · simp at member
  | split first second =>
    simp only [follow, List.mem_cons, List.not_mem_nil, or_false] at member
    rcases member with rfl | rfl <;> simp [Instr.targets, Instr.group?]
  | jump next | mark group next =>
    rw [follow, List.mem_singleton] at member
    subst member
    exact ⟨List.mem_singleton_self next, rfl⟩
  | accept => simp [follow] at member

/-- What a search through a block in a larger program comes to: it ends where the block's own search ends,
or goes on with the other threads, and all places that were entered are before the block's end. -/
def Continues (whole : Array Instr) (stop : Nat) (finish : Thread → Thread) (waiting others : List Thread)
    (seen : Finset Entry) : Option Thread → Prop
  | some t => Explores whole (waiting ++ others) seen (some (finish t))
  | none => ∃ entered : Finset Entry, (∀ place ∈ entered, place.1 < stop) ∧
      ∀ result, Explores whole others entered result → Explores whole (waiting ++ others) seen result

section
variable {e : Expr} {whole : Array Instr} {distance : Nat} {number : Nat → Nat} {finish : Thread → Thread}

/-- A search through a block follows the search through the program that holds nothing else. -/
theorem Explores.continues
    (placed : Placed whole distance ((e.code 0 e.size).map (·.moved distance number)))
    (ends : ∀ (t : Thread) (others : List Thread) (seen : Finset Entry), t.address = e.size →
      (∀ place ∈ seen, place.1 < distance + e.size) →
      Explores whole (t.moved distance number :: others) seen (some (finish t)))
    {waiting others : List Thread} {own seen : Finset Entry} {result : Option Thread}
    (explores : Explores e.program waiting own result) (within : ∀ t ∈ waiting, t.address ≤ e.size)
    (inside : ∀ place ∈ own, place.1 < e.size) (below : ∀ place ∈ seen, place.1 < distance + e.size)
    (same : ∀ place : Entry, place.1 < e.size → ((place.1 + distance, place.2) ∈ seen ↔ place ∈ own)) :
    Continues whole (distance + e.size) finish (waiting.map (·.moved distance number)) others seen result := by
  induction explores generalizing seen with
  | exhausted => exact ⟨seen, below, fun _ rest => rest⟩
  | @known t waiting own result member _ ih =>
    have entered : (t.moved distance number).entry ∈ seen := (same t.entry (inside _ member)).mpr member
    have later := ih (fun u among => within u (List.mem_cons_of_mem t among)) inside below same
    cases result with
    | some u => exact .known entered later
    | none =>
      obtain ⟨after, bound, rest⟩ := later
      exact ⟨after, bound, fun result onward => .known entered (rest result onward)⟩
  | @lost t waiting own result fresh absent _ ih =>
    rcases Nat.lt_or_eq_of_le (within t List.mem_cons_self) with before | atEnd
    · rw [e.program_inside before, List.getElem?_eq_none_iff, Expr.code_length] at absent
      omega
    · rw [atEnd, e.program_end] at absent
      simp at absent
  | @accept t waiting own fresh found =>
    rcases Nat.lt_or_eq_of_le (within t List.mem_cons_self) with before | atEnd
    · rw [e.program_inside before] at found
      have stays := Expr.code_within e (List.Subset.refl _) 0 e.size (Nat.zero_le 0) (Nat.le_of_eq (Nat.zero_add _))
        (Nat.zero_le _) (Nat.le_refl _) _ (List.mem_of_getElem? found)
      exact absurd rfl stays.1
    · exact ends t _ seen atEnd below
  | @follow t waiting own result instr fresh found onward _ ih =>
    rcases Nat.lt_or_eq_of_le (within t List.mem_cons_self) with before | atEnd
    · rw [e.program_inside before] at found
      have stays := Expr.code_within e (List.Subset.refl _) 0 e.size (Nat.zero_le 0) (Nat.le_of_eq (Nat.zero_add _))
        (Nat.zero_le _) (Nat.le_refl _) _ (List.mem_of_getElem? found)
      have there : whole[(t.moved distance number).address]? = some (instr.moved distance number) := by
        have image := placed t.address (by rwa [List.length_map, Expr.code_length])
        rw [List.getElem?_map, found] at image
        rwa [Nat.add_comm] at image
      have new : (t.moved distance number).entry ∉ seen := fun member => fresh ((same t.entry before).mp member)
      have moves : instr.moved distance number ≠ .accept := by
        cases instr <;> simp [Instr.moved] at onward ⊢
      have later := @ih (insert (t.moved distance number).entry seen)
        (by
          intro u among
          rcases List.mem_append.mp among with next | old
          · exact (stays.2.1 _ (Thread.follow_mem next).1).2
          · exact within u (List.mem_cons_of_mem t old))
        (by
          intro place member
          rcases Finset.mem_insert.mp member with rfl | old
          · exact before
          · exact inside place old)
        (by
          intro place member
          rcases Finset.mem_insert.mp member with rfl | old
          · simp only [Thread.entry, Thread.moved]
            omega
          · exact below place old)
        (by
          intro place bounded
          rw [Finset.mem_insert, Finset.mem_insert, same place bounded]
          simp [Thread.entry, Thread.moved, Prod.ext_iff])
      rw [List.map_append, ← Thread.follow_moved] at later
      cases result with
      | some u =>
        rw [Continues, List.append_assoc] at later
        exact .follow new there moves later
      | none =>
        obtain ⟨after, bound, rest⟩ := later
        refine ⟨after, bound, fun result onward => .follow new there moves ?_⟩
        have last := rest result onward
        rwa [List.append_assoc] at last
    · rw [atEnd, e.program_end] at found
      exact absurd (Option.some.inj found).symm onward

/-- From a block's first address on, where no place of the block was entered yet. -/
theorem matchHere_continues
    (placed : Placed whole distance ((e.code 0 e.size).map (·.moved distance number)))
    (ends : ∀ (t : Thread) (others : List Thread) (seen : Finset Entry), t.address = e.size →
      (∀ place ∈ seen, place.1 < distance + e.size) →
      Explores whole (t.moved distance number :: others) seen (some (finish t)))
    (before : Option Char) (rest : List Char) (others : List Thread) {seen : Finset Entry}
    (below : ∀ place ∈ seen, place.1 < distance) :
    Continues whole (distance + e.size) finish [⟨distance, before, rest, 0, []⟩] others seen
      (matchHere e.program before rest) := by
  have start : [(⟨distance, before, rest, 0, []⟩ : Thread)] =
      [(⟨0, before, rest, 0, []⟩ : Thread)].map (·.moved distance number) := by
    simp [Thread.moved]
  rw [start]
  apply Explores.continues placed ends (matchHere_explores e.program before rest)
  · simp
  · simp
  · intro place member
    exact Nat.lt_of_lt_of_le (below place member) (Nat.le_add_right _ _)
  · intro place _
    simp only [Finset.notMem_empty, iff_false]
    intro member
    exact absurd (below _ member) (by simp)

theorem Continues.alone {stop : Nat} {waiting : List Thread} {seen : Finset Entry} {result : Option Thread}
    (continues : Continues whole stop finish waiting [] seen result) :
    Explores whole waiting seen (result.map finish) := by
  cases result with
  | some t => simpa [Continues] using continues
  | none =>
    obtain ⟨entered, -, rest⟩ := continues
    simpa using rest none .exhausted

end

/-- Only groups that the program marks take part in a match. -/
theorem Explores.groups {program : Array Instr} {waiting : List Thread} {seen : Finset Entry} {result : Option Thread}
    {marks : List Nat} (explores : Explores program waiting seen result)
    (marked : ∀ (address : Nat) (instr : Instr), program[address]? = some instr →
      ∀ group ∈ instr.group?, group ∈ marks)
    (before : ∀ t ∈ waiting, t.groups ⊆ marks) : ∀ t ∈ result, t.groups ⊆ marks := by
  induction explores with
  | exhausted => simp
  | known _ _ ih | lost _ _ _ ih => exact ih fun t member => before t (List.mem_cons_of_mem _ member)
  | accept =>
    intro t member
    cases member
    exact before _ List.mem_cons_self
  | follow _ found _ _ ih =>
    apply ih
    intro u member
    rcases List.mem_append.mp member with next | old
    · rw [(Thread.follow_mem next).2, List.append_subset]
      exact ⟨fun group member => marked _ _ found group (Option.mem_toList.mp member), before _ List.mem_cons_self⟩
    · exact before u (List.mem_cons_of_mem _ old)

/-- The groups of a match are groups of the expression. -/
theorem matchHere_groups {e : Expr} {before : Option Char} {rest : List Char} {t : Thread}
    (found : matchHere e.program before rest = some t) : t.groups ⊆ e.groups := by
  have explores := matchHere_explores e.program before rest
  rw [found] at explores
  refine explores.groups ?_ (by simp) t rfl
  intro address instr held
  rcases Nat.lt_trichotomy address e.size with inside | atEnd | outside
  · exact (e.program_within inside held).2.2
  · rw [atEnd, e.program_end, Option.some.injEq] at held
    subst held
    simp [Instr.group?]
  · obtain ⟨within, -⟩ := Array.getElem?_eq_some_iff.mp held
    simp only [Expr.program, List.size_toArray, List.length_append, Expr.code_length, List.length_singleton] at within
    omega

/-- What a match tells of the thread that accepted. -/
def Thread.outcome (t : Thread) : Nat × List Nat := (t.taken, t.groups)

/-- A search for the renumbered expression takes the same way and marks the renumbered groups. -/
theorem matchHere_renumber (number : Nat → Nat) (e : Expr) (before : Option Char) (rest : List Char) :
    matchHere (e.renumber number).program before rest =
      (matchHere e.program before rest).map (·.moved 0 number) := by
  have placed : Placed (e.renumber number).program 0 ((e.code 0 e.size).map (·.moved 0 number)) := by
    rw [← Expr.code_moved, Nat.add_zero, Nat.add_zero, ← Expr.size_renumber number e]
    exact (Placed.whole _).left
  have ends (t : Thread) (others : List Thread) (seen : Finset Entry) (atEnd : t.address = e.size)
      (below : ∀ place ∈ seen, place.1 < 0 + e.size) :
      Explores (e.renumber number).program (t.moved 0 number :: others) seen (some (t.moved 0 number)) := by
    refine .accept (fun member => ?_) ?_
    · have inside := below _ member
      simp only [Thread.entry, Thread.moved] at inside
      omega
    · have accepts := (e.renumber number).program_end
      rwa [Expr.size_renumber, ← atEnd] at accepts
  exact matchHere_eq (matchHere_continues placed ends before rest [] (by simp)).alone

namespace Expr

theorem code_at (e : Expr) (base : Nat) :
    e.code base (base + e.size) = (e.code 0 e.size).map (·.moved base id) := by
  have moved := code_moved base id e 0 e.size
  rwa [renumber_id, Nat.zero_add, Nat.add_comm] at moved

/-- Of expressions with the numbers of the groups around them, the first that matches here: how many characters
it takes, and the groups that take part. -/
def firstMatch (branches : List (Nat × Expr)) (before : Option Char) (rest : List Char) :
    Option (Nat × List Nat) :=
  branches.findSome? fun branch =>
    (matchHere branch.2.program before rest).map fun t => (t.taken, branch.1 :: t.groups)

/-- The alternation of the expressions, each in its group. -/
def wrapped (branches : List (Nat × Expr)) : Expr := choice (branches.map fun branch => capture branch.1 branch.2)

end Expr

/-- Where all places that were entered are before a thread, its own was not. -/
theorem Thread.entry_notMem {t : Thread} {seen : Finset Entry} (below : ∀ place ∈ seen, place.1 < t.address) :
    t.entry ∉ seen :=
  fun member => absurd (below _ member) (Nat.lt_irrefl _)

theorem Thread.insert_below {t : Thread} {seen : Finset Entry} (below : ∀ place ∈ seen, place.1 < t.address) :
    ∀ place ∈ insert t.entry seen, place.1 < t.address + 1 := by
  intro place member
  rcases Finset.mem_insert.mp member with rfl | old
  · exact Nat.lt_succ_self t.address
  · exact Nat.lt_succ_of_lt (below place old)

section
variable {whole : Array Instr} {stop : Nat}

theorem capture_continues (accepts : whole[stop]? = some .accept) (index : Nat) (e : Expr) {base : Nat}
    (placed : Placed whole base ((Expr.capture index e).code base stop))
    (before_stop : base + (Expr.capture index e).size ≤ stop) (before : Option Char) (rest : List Char)
    (others : List Thread) {seen : Finset Entry} (below : ∀ place ∈ seen, place.1 < base) :
    Continues whole (base + e.size) (fun t => ⟨stop, t.before, t.rest, t.taken, index :: t.groups⟩)
      [⟨base, before, rest, 0, []⟩] others seen (matchHere e.program before rest) := by
  rw [Expr.code, Expr.code_at] at placed
  rw [Expr.size] at before_stop
  apply matchHere_continues placed.left
  · intro t others seen atEnd below
    have mark := placed.right.head
    rw [List.length_map, Expr.code_length, ← atEnd, Nat.add_comm] at mark
    refine .follow (fun member => ?_) mark (by simp) ?_
    · have inside := below _ member
      simp only [Thread.entry, Thread.moved] at inside
      omega
    · simp only [Thread.moved, List.map_id]
      refine .accept (fun member => ?_) accepts
      rcases Finset.mem_insert.mp member with same | old
      · have equal := congrArg Prod.fst same
        simp only [Thread.entry] at equal
        omega
      · have inside := below _ old
        simp only [Thread.entry] at inside
        omega
  · exact below

/-- A search through an alternation finds what the first matching branch finds, and its group besides. -/
theorem wrapped_explores (accepts : whole[stop]? = some .accept) (branches : List (Nat × Expr)) {base : Nat}
    (placed : Placed whole base ((Expr.wrapped branches).code base stop))
    (before_stop : base + (Expr.wrapped branches).size ≤ stop) (before : Option Char) (rest : List Char)
    {seen : Finset Entry} (below : ∀ place ∈ seen, place.1 < base) :
    ∃ result : Option Thread, result.map Thread.outcome = Expr.firstMatch branches before rest ∧
      Explores whole [⟨base, before, rest, 0, []⟩] seen result := by
  induction branches generalizing base seen with
  | nil =>
    have never : whole[base]? = some (.chars .empty stop) := placed.head
    have stuck : (⟨base, before, rest, 0, []⟩ : Thread).follow (.chars .empty stop) = [] := by
      cases rest <;> rfl
    refine ⟨none, rfl, .follow (Thread.entry_notMem below) never (by simp) ?_⟩
    rw [stuck]
    exact .exhausted
  | cons branch branches ih =>
    obtain ⟨index, e⟩ := branch
    cases branches with
    | nil =>
      have found := (capture_continues accepts index e placed before_stop before rest [] below).alone
      refine ⟨_, ?_, found⟩
      simp only [Expr.firstMatch, List.findSome?_cons, List.findSome?_nil, Option.map_map]
      cases matchHere e.program before rest <;> rfl
    | cons next branches =>
      change Placed whole base ((Expr.alt (.capture index e) (Expr.wrapped (next :: branches))).code base stop)
        at placed
      change base + (1 + (Expr.capture index e).size + (Expr.wrapped (next :: branches)).size) ≤ stop
        at before_stop
      rw [Expr.code] at placed
      have fresh : (⟨base, before, rest, 0, []⟩ : Thread).entry ∉ seen := Thread.entry_notMem below
      have later : ∀ place ∈ insert (⟨base, before, rest, 0, []⟩ : Thread).entry seen, place.1 < base + 1 :=
        Thread.insert_below below
      have first := capture_continues accepts index e placed.tail.left (by omega) before rest
        [⟨base + 1 + (Expr.capture index e).size, before, rest, 0, []⟩] later
      have split : ∀ result, Explores whole ([⟨base + 1, before, rest, 0, []⟩] ++
          [⟨base + 1 + (Expr.capture index e).size, before, rest, 0, []⟩])
          (insert (⟨base, before, rest, 0, []⟩ : Thread).entry seen) result →
          Explores whole [⟨base, before, rest, 0, []⟩] seen result :=
        fun result onward => .follow fresh placed.head (by simp) onward
      cases found : matchHere e.program before rest with
      | some t =>
        rw [found] at first
        exact ⟨_, by simp [Expr.firstMatch, found, Thread.outcome], split _ first⟩
      | none =>
        rw [found] at first
        obtain ⟨entered, bound, onward⟩ := first
        have behind := placed.tail.right
        rw [Expr.code_length] at behind
        have earlier : ∀ place ∈ entered, place.1 < base + 1 + (Expr.capture index e).size := by
          intro place member
          have inside := bound place member
          rw [Expr.size]
          omega
        obtain ⟨result, outcome, explores⟩ := ih behind (by omega) earlier
        refine ⟨result, ?_, split _ (onward _ explores)⟩
        rw [outcome, Expr.firstMatch, Expr.firstMatch, List.findSome?_cons (a := (index, e))]
        simp [found]

end

namespace Expr

/-- The condition at the start of the text holds where a search starts. -/
theorem start_explores {program : Array Instr} {rest : List Char} {result : Option Thread}
    (found : program[0]? = some (.look .startText 1))
    (explores : Explores program [⟨1, none, rest, 0, []⟩] {(0, 0)} result) :
    matchHere program none rest = result :=
  matchHere_eq (.follow (by simp) found (by simp) explores)

theorem start_placed (e : Expr) : Placed (seq (look .startText) e).program 0
    (.look .startText 1 :: (e.code 1 (1 + e.size) ++ [Instr.accept])) :=
  Placed.whole _

/-- The search behind the start of the text for an alternation of groups. -/
theorem matchHere_wrapped (branches : List (Nat × Expr)) (rest : List Char) :
    (matchHere (seq (look .startText) (wrapped branches)).program none rest).map Thread.outcome =
      firstMatch branches none rest := by
  have placed := start_placed (wrapped branches)
  have accepts := placed.tail.right.head
  rw [code_length, Nat.zero_add] at accepts
  have early : ∀ place ∈ ({(0, 0)} : Finset Entry), place.1 < 1 := by simp
  obtain ⟨result, outcome, explores⟩ := wrapped_explores accepts branches placed.tail.left
    (Nat.le_refl _) none rest early
  rw [start_explores placed.head explores, outcome]

/-- The search behind the start of the text for one expression. -/
theorem matchHere_start (e : Expr) (rest : List Char) :
    (matchHere (seq (look .startText) e).program none rest).map Thread.outcome =
      (matchHere e.program none rest).map Thread.outcome := by
  have placed := start_placed e
  have accepts := placed.tail.right.head
  have block := placed.tail.left
  rw [code_length, Nat.zero_add] at accepts
  rw [Nat.zero_add, code_at] at block
  have ends (t : Thread) (others : List Thread) (seen : Finset Entry) (atEnd : t.address = e.size)
      (below : ∀ place ∈ seen, place.1 < 1 + e.size) : Explores (seq (look .startText) e).program
        (t.moved 1 id :: others) seen (some (t.moved 1 id)) := by
    refine .accept (fun member => ?_) ?_
    · have inside := below _ member
      simp only [Thread.entry, Thread.moved] at inside
      omega
    · rw [Thread.moved, atEnd, Nat.add_comm]
      exact accepts
  have early : ∀ place ∈ ({(0, 0)} : Finset Entry), place.1 < 1 := by simp
  have continues := matchHere_continues block ends none rest [] early
  rw [start_explores placed.head continues.alone]
  cases matchHere e.program none rest with
  | none => rfl
  | some t => simp [Thread.outcome, Thread.moved]

theorem matchHere_wrapped_outcome (branches : List (Nat × Expr)) (rest : List Char) :
    (matchHere (wrapped branches).program none rest).map Thread.outcome = firstMatch branches none rest := by
  rw [← matchHere_start, matchHere_wrapped]

theorem firstMatch_none {branches : List (Nat × Expr)} {before : Option Char} {rest : List Char}
    (none : ∀ branch ∈ branches, matchHere branch.2.program before rest = none) :
    firstMatch branches before rest = .none := by
  rw [firstMatch, List.findSome?_eq_none_iff]
  intro branch member
  rw [none branch member]
  rfl

/-- The first match is that of a branch that matches while no branch before it does. -/
theorem firstMatch_at {branches : List (Nat × Expr)} {before : Option Char} {rest : List Char} {index : Nat}
    {branch : Nat × Expr} {t : Thread} (found : branches[index]? = some branch)
    (matched : matchHere branch.2.program before rest = some t)
    (earlier : ∀ other ∈ branches.take index, matchHere other.2.program before rest = none) :
    firstMatch branches before rest = some (t.taken, branch.1 :: t.groups) := by
  induction branches generalizing index with
  | nil => simp at found
  | cons first others ih =>
    rw [firstMatch, List.findSome?_cons]
    cases index with
    | zero =>
      cases found
      rw [matched]
      rfl
    | succ index =>
      rw [earlier first (by simp)]
      rw [List.getElem?_cons_succ] at found
      exact ih found fun other member => earlier other (by simp [member])

theorem firstMatch_some {branches : List (Nat × Expr)} {before : Option Char} {rest : List Char} {taken : Nat}
    {groups : List Nat} (found : firstMatch branches before rest = some (taken, groups)) :
    ∃ (index : Nat) (branch : Nat × Expr) (t : Thread), branches[index]? = some branch ∧
      matchHere branch.2.program before rest = some t ∧ t.taken = taken ∧ groups = branch.1 :: t.groups ∧
      ∀ earlier ∈ branches.take index, matchHere earlier.2.program before rest = none := by
  obtain ⟨front, branch, behind, rfl, first, missed⟩ := List.findSome?_eq_some_iff.mp found
  obtain ⟨t, matched, outcome⟩ := Option.map_eq_some_iff.mp first
  rw [Prod.mk.injEq] at outcome
  refine ⟨front.length, branch, t, by simp, matched, outcome.1, outcome.2.symm, fun earlier member => ?_⟩
  rw [List.take_left] at member
  exact Option.map_eq_none_iff.mp (missed earlier member)

end Expr
end Lexicon.Regex

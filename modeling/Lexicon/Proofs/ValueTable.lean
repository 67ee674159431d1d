import Mathlib.Data.List.Chain
import Lexicon.ValueTable

/-! Tables whatever was appended to them, references to later, unknown and the same tokens included. Following
references comes to an end, to the value at the end of a chain that goes down; what is appended later changes nothing
about the tokens that are there. -/
namespace Lexicon
variable {ν : Type}

/-- Neither stretch is reversed. -/
def Entry.Ordered (e : Entry ν) : Prop := e.range.start ≤ e.range.stop ∧ e.bytes.start ≤ e.bytes.stop

instance (e : Entry ν) : Decidable e.Ordered := inferInstanceAs (Decidable (_ ∧ _))

namespace ValueTable
variable {t t' : ValueTable ν} {id : TokenId} {value : Value ν} {e : Entry ν}

theorem contains_iff : t.contains id = true ↔ id.number ≤ t.size := decide_eq_true_iff

theorem entry?_of_contains (known : t.contains id = true) : ∃ e, t.entry? id = some e := by
  have positive := id.positive
  rw [contains_iff, size] at known
  exact ⟨_, Array.getElem?_eq_getElem (by omega)⟩

theorem value?_of_contains (known : t.contains id = true) : ∃ value, t.value? id = some value := by
  obtain ⟨e, found⟩ := entry?_of_contains known
  exact ⟨e.value, by rw [value?, found, Option.map_some]⟩

theorem contains_of_value? (found : t.value? id = some value) : t.contains id = true := by
  obtain ⟨e, entry, -⟩ := Option.map_eq_some_iff.mp found
  obtain ⟨inside, -⟩ := Array.getElem?_eq_some_iff.mp entry
  have positive := id.positive
  rw [contains_iff, size]
  omega

/-! One call. -/

/-- How many entries there are numbers for. -/
def capacity : Nat := 0xffffffff

theorem nextId?_eq_some (number : id.number = t.size + 1) : t.nextId? = some id := by
  rw [nextId?, ← number, TokenId.ofNat?_number]

theorem lastId?_eq_some (number : id.number = t.size) : t.lastId? = some id := by
  rw [lastId?, ← number, TokenId.ofNat?_number]

theorem nextId?_eq_none (full : capacity ≤ t.size) : t.nextId? = none := by
  refine dif_neg fun small => ?_
  simp only [capacity] at full
  omega

theorem append_reversed (reversed : ¬e.Ordered) :
    t.append e.value e.range e.bytes = .error (.reversed e.range e.bytes) := if_neg reversed

theorem append_ordered (ordered : e.Ordered) : t.append e.value e.range e.bytes =
    match t.nextId? with
    | none => .error .full
    | some id => .ok (id, ⟨t.entries.push e⟩) := if_pos ordered

theorem append_full (ordered : e.Ordered) (full : capacity ≤ t.size) :
    t.append e.value e.range e.bytes = .error .full := by
  rw [append_ordered ordered, nextId?_eq_none full]

/-- While there are numbers left, an entry that is not reversed comes last and has the next number. -/
theorem append_stored (ordered : e.Ordered) (room : t.size < capacity) : ∃ id : TokenId, id.number = t.size + 1 ∧
    t.append e.value e.range e.bytes = .ok (id, ⟨t.entries.push e⟩) := by
  have small : t.size + 1 < 0x100000000 := Nat.succ_lt_succ room
  let id : TokenId := ⟨t.size + 1, Nat.succ_pos _, small⟩
  have next : t.nextId? = some id := nextId?_eq_some rfl
  exact ⟨id, rfl, by rw [append_ordered ordered, next]⟩

/-! Tables that grow. -/

/-- The table behind calls that append an entry each. A call that is refused changes nothing. -/
def appendAll (t : ValueTable ν) : List (Entry ν) → ValueTable ν
  | [] => t
  | e :: rest =>
    match t.append e.value e.range e.bytes with
    | .error _ => t.appendAll rest
    | .ok (_, t') => t'.appendAll rest

/-- The second table has the entries of the first, and perhaps others behind them. -/
def Extends (t t' : ValueTable ν) : Prop := t.entries.toList <+: t'.entries.toList

theorem extends_append {range bytes : Span} (stored : t.append value range bytes = .ok (id, t')) : t.Extends t' := by
  obtain ⟨-, rfl⟩ := append_ok stored
  exact ⟨[⟨value, range, bytes⟩], Array.toList_push.symm⟩

theorem extends_appendAll (t : ValueTable ν) (entries : List (Entry ν)) : t.Extends (t.appendAll entries) := by
  induction entries generalizing t with
  | nil => exact List.prefix_refl _
  | cons e rest ih =>
    unfold appendAll
    split
    · exact ih t
    · next stored => exact (extends_append stored).trans (ih _)

theorem Extends.entry? (grown : t.Extends t') (known : t.contains id = true) : t'.entry? id = t.entry? id := by
  have positive := id.positive
  have inside : id.number - 1 < t.entries.toList.length := by
    rw [contains_iff, size, ← Array.length_toList] at known
    omega
  rw [ValueTable.entry?, ValueTable.entry?, ← Array.getElem?_toList, ← Array.getElem?_toList,
    List.prefix_iff_getElem?.mp grown _ inside, List.getElem?_eq_getElem inside]

theorem Extends.value? (grown : t.Extends t') (known : t.contains id = true) : t'.value? id = t.value? id := by
  rw [ValueTable.value?, ValueTable.value?, grown.entry? known]

/-- A token that is there stands for the same value in a table that has grown. -/
theorem Extends.resolve (grown : t.Extends t') (known : t.contains id = true) : t'.resolve id = t.resolve id := by
  fun_induction ValueTable.resolve t id with
  | case1 id target found before ih =>
    have earlier : t.contains target = true := by
      rw [contains_iff] at known ⊢
      omega
    rw [ValueTable.resolve, grown.value? known, found]
    simp only [before, if_true, ih earlier]
  | case2 id target found notBefore =>
    rw [ValueTable.resolve, grown.value? known, found]
    simp only [notBefore, if_false]
  | case3 id other =>
    rw [ValueTable.resolve, grown.value? known]
    split
    · next target found => exact absurd found (other target)
    · rfl

/-! Following references. -/

/-- The rounds of following references: one for each token that is looked at. -/
inductive Follows (t : ValueTable ν) : TokenId → (rounds : Nat) → Option (Value ν) → Prop where
  | unknown {id : TokenId} (absent : t.value? id = none) : Follows t id 1 none
  | value {id : TokenId} {value : Value ν} (found : t.value? id = some value)
      (settled : ∀ target, value ≠ .ref target) : Follows t id 1 (some value)
  | forward {id target : TokenId} (found : t.value? id = some (.ref target)) (notBefore : id.number ≤ target.number) :
      Follows t id 1 none
  | onward {id target : TokenId} {rounds : Nat} {result : Option (Value ν)}
      (found : t.value? id = some (.ref target)) (before : target.number < id.number)
      (rest : Follows t target rounds result) : Follows t id (rounds + 1) result

/-- Every round but the first is about an earlier token, so that there are no more of them than tokens up to the first
one. -/
theorem exists_follows (t : ValueTable ν) (id : TokenId) :
    ∃ rounds ≤ id.number, t.Follows id rounds (t.resolve id) := by
  fun_induction ValueTable.resolve t id with
  | case1 id target found before ih =>
    obtain ⟨rounds, few, follows⟩ := ih
    exact ⟨rounds + 1, Nat.lt_of_le_of_lt few before, .onward found before follows⟩
  | case2 id target found notBefore => exact ⟨1, id.positive, .forward found (Nat.not_lt.mp notBefore)⟩
  | case3 id other =>
    refine ⟨1, id.positive, ?_⟩
    cases found : t.value? id with
    | none => exact .unknown found
    | some value => exact .value found fun target same => other target (found.trans (congrArg some same))

/-- References from a token down to a value: each token of the chain refers to the one behind it, which was stored
earlier, and the last one holds the value, which is no reference. -/
structure Chain (t : ValueTable ν) (id : TokenId) (value : Value ν) (ids : List TokenId) : Prop where
  head : ids.head? = some id
  known : ∀ i ∈ ids, t.contains i = true
  refers : ids.IsChain fun i next => t.value? i = some (.ref next) ∧ next.number < i.number
  last : ids.getLast?.bind t.value? = some value
  settled : ∀ target, value ≠ .ref target

theorem Chain.single (found : t.value? id = some value) (settled : ∀ target, value ≠ .ref target) :
    t.Chain id value [id] where
  head := rfl
  known := by
    intro i member
    rw [List.mem_singleton.mp member]
    exact contains_of_value? found
  refers := .singleton id
  last := found
  settled := settled

theorem Chain.cons {target : TokenId} {ids : List TokenId} (found : t.value? id = some (.ref target))
    (before : target.number < id.number) (chain : t.Chain target value ids) : t.Chain id value (id :: ids) := by
  obtain ⟨head, known, refers, last, settled⟩ := chain
  obtain ⟨rest, rfl⟩ := List.head?_eq_some_iff.mp head
  refine ⟨rfl, ?_, .cons_cons ⟨found, before⟩ refers, ?_, settled⟩
  · exact List.forall_mem_cons.mpr ⟨contains_of_value? found, known⟩
  · rwa [List.getLast?_cons_cons]

theorem Chain.resolve {ids : List TokenId} (chain : t.Chain id value ids) : t.resolve id = some value := by
  induction ids generalizing id with
  | nil => simpa using chain.head
  | cons first rest ih =>
    obtain ⟨head, known, refers, last, settled⟩ := chain
    cases head
    cases rest with
    | nil =>
      have found : t.value? first = some value := last
      rw [ValueTable.resolve, found]
      split
      · next target same => exact absurd (Option.some.inj same) (settled target)
      · rfl
    | cons next rest =>
      obtain ⟨⟨found, before⟩, further⟩ := List.isChain_cons_cons.mp refers
      rw [List.getLast?_cons_cons] at last
      have onward := ih ⟨rfl, (List.forall_mem_cons.mp known).2, further, last, settled⟩
      rw [ValueTable.resolve, found]
      simp only [before, if_true, onward]

theorem exists_chain (resolved : t.resolve id = some value) : ∃ ids, t.Chain id value ids := by
  fun_induction ValueTable.resolve t id with
  | case1 id target found before ih =>
    obtain ⟨ids, chain⟩ := ih resolved
    exact ⟨_, chain.cons found before⟩
  | case2 => simp at resolved
  | case3 id other => exact ⟨_, .single resolved fun target same => other target (resolved.trans (congrArg some same))⟩

/-- Following references comes to an end in any table. It gives the value at the end of a chain of references that go
down, and nothing if there is no such chain. A token that is there stands for the same value, or for none, whatever is
appended: a reference that does not go back leads nowhere, even once its target is there. -/
theorem resolve_exact (t : ValueTable ν) (id : TokenId) :
    (∃ rounds ≤ id.number, t.Follows id rounds (t.resolve id)) ∧
    (∀ value, t.resolve id = some value ↔ ∃ ids, t.Chain id value ids) ∧
    (t.resolve id = none ↔ ∀ value ids, ¬t.Chain id value ids) ∧
    (t.contains id = true → ∀ entries, (t.appendAll entries).resolve id = t.resolve id) ∧
    ∀ target, t.value? id = some (.ref target) → id.number ≤ target.number →
      ∀ entries, (t.appendAll entries).resolve id = none := by
  have resolves (value : Value ν) : t.resolve id = some value ↔ ∃ ids, t.Chain id value ids :=
    ⟨exists_chain, fun ⟨_, chain⟩ => chain.resolve⟩
  refine ⟨t.exists_follows id, resolves, ?_, fun known entries => ?_, fun target found notBefore entries => ?_⟩
  · simp only [Option.eq_none_iff_forall_ne_some, ne_eq, resolves, not_exists]
  · exact (t.extends_appendAll entries).resolve known
  · rw [(t.extends_appendAll entries).resolve (contains_of_value? found), ValueTable.resolve, found]
    simp only [Nat.not_lt.mpr notBefore, if_false]

end ValueTable
end Lexicon

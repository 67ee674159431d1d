import Lexicon.Proofs.ValueTable

/-! A table is a sequence that only grows. The number of a token is its place in the sequence, counted from one: numbers
are given in order, a call that is refused uses none up, and what a table says of a number, of its last one or of all of
them together is what was appended, whatever is appended later. -/
namespace Lexicon.ValueTable
variable {ν : Type} {t t' : ValueTable ν} {id : TokenId} {e : Entry ν}

/-! Calls one after the other. -/

/-- The calls that store their entries, each with the number that it gives. -/
def granted (t : ValueTable ν) : List (Entry ν) → List (TokenId × Entry ν)
  | [] => []
  | e :: rest =>
    match t.append e.value e.range e.bytes with
    | .error _ => t.granted rest
    | .ok (id, t') => (id, e) :: t'.granted rest

theorem calls_refused {refusal : Refusal} (refused : t.append e.value e.range e.bytes = .error refusal)
    (rest : List (Entry ν)) : t.appendAll (e :: rest) = t.appendAll rest ∧ t.granted (e :: rest) = t.granted rest := by
  simp only [appendAll, granted, refused, and_self]

theorem calls_stored (stored : t.append e.value e.range e.bytes = .ok (id, t')) (rest : List (Entry ν)) :
    t.appendAll (e :: rest) = t'.appendAll rest ∧ t.granted (e :: rest) = (id, e) :: t'.granted rest := by
  simp only [appendAll, granted, stored, and_self]

theorem calls_append (t : ValueTable ν) (before later : List (Entry ν)) :
    t.appendAll (before ++ later) = (t.appendAll before).appendAll later ∧
      t.granted (before ++ later) = t.granted before ++ (t.appendAll before).granted later := by
  induction before generalizing t with
  | nil => exact ⟨rfl, rfl⟩
  | cons e rest ih =>
    rcases outcome : t.append e.value e.range e.bytes with refusal | ⟨id, t'⟩
    · simp only [List.cons_append, calls_refused outcome, ih t, and_self]
    · simp only [List.cons_append, calls_stored outcome, ih t', and_self]

theorem concat_refused {before : List (Entry ν)} {refusal : Refusal}
    (refused : (t.appendAll before).append e.value e.range e.bytes = .error refusal) :
    t.appendAll (before ++ [e]) = t.appendAll before ∧ t.granted (before ++ [e]) = t.granted before := by
  obtain ⟨table, given⟩ := calls_append t before [e]
  obtain ⟨same, none⟩ := calls_refused refused []
  exact ⟨table.trans same, by rw [given, none, granted, List.append_nil]⟩

theorem concat_stored {before : List (Entry ν)}
    (stored : (t.appendAll before).append e.value e.range e.bytes = .ok (id, t')) :
    t.appendAll (before ++ [e]) = t' ∧ t.granted (before ++ [e]) = t.granted before ++ [(id, e)] := by
  obtain ⟨table, given⟩ := calls_append t before [e]
  obtain ⟨grown, one⟩ := calls_stored stored []
  exact ⟨table.trans grown, by rw [given, one, granted]⟩

/-- What is stored is behind what was there, in the order of the calls. -/
theorem appendAll_entries (t : ValueTable ν) (calls : List (Entry ν)) :
    (t.appendAll calls).entries.toList = t.entries.toList ++ (t.granted calls).map (·.2) := by
  induction calls generalizing t with
  | nil => exact (List.append_nil _).symm
  | cons e rest ih =>
    rcases outcome : t.append e.value e.range e.bytes with refusal | ⟨id, t'⟩
    · rw [(calls_refused outcome rest).1, (calls_refused outcome rest).2, ih t]
    · obtain ⟨-, rfl⟩ := append_ok outcome
      rw [(calls_stored outcome rest).1, (calls_stored outcome rest).2, ih, Array.toList_push, List.map_cons,
        List.append_assoc, List.singleton_append]

/-- The numbers go on from those that were given before, and no number is left out. -/
theorem granted_numbers (t : ValueTable ν) (calls : List (Entry ν)) :
    (t.granted calls).map (·.1.number) = List.range' (t.size + 1) (t.granted calls).length := by
  induction calls generalizing t with
  | nil => rfl
  | cons e rest ih =>
    rcases outcome : t.append e.value e.range e.bytes with refusal | ⟨id, t'⟩
    · rw [(calls_refused outcome rest).2, ih t]
    · obtain ⟨number, grown⟩ := append_ok outcome
      have size : t'.size = t.size + 1 := by rw [grown, ValueTable.size, Array.size_push, ValueTable.size]
      rw [(calls_stored outcome rest).2, List.map_cons, ih t', size, number, List.length_cons, List.range'_succ]

/-- The calls that store their entries are those that are not reversed, as many of them as there are numbers left. -/
theorem granted_calls (t : ValueTable ν) (calls : List (Entry ν)) :
    (t.granted calls).map (·.2) = (calls.filter (·.Ordered)).take (capacity - t.size) := by
  induction calls generalizing t with
  | nil => rw [List.filter_nil, List.take_nil]; rfl
  | cons e rest ih =>
    by_cases ordered : e.Ordered
    · rw [List.filter_cons_of_pos (by simpa using ordered)]
      rcases Nat.lt_or_ge t.size capacity with room | full
      · obtain ⟨id, -, stored⟩ := append_stored ordered room
        have left : capacity - t.size = capacity - (t.size + 1) + 1 := by omega
        rw [(calls_stored stored rest).2, List.map_cons, ih, left, List.take_succ_cons, ValueTable.size,
          Array.size_push, ValueTable.size]
      -- A full table stays full, so that no call behind this one is stored either.
      · rw [(calls_refused (append_full ordered full) rest).2, ih t, Nat.sub_eq_zero_of_le full, List.take_zero,
          List.take_zero]
    · rw [(calls_refused (append_reversed ordered) rest).2, ih t, List.filter_cons_of_neg (by simpa using ordered)]

/-! What a table says. -/

/-- All that a table says of a number is what an entry has. -/
structure Holds (t : ValueTable ν) (id : TokenId) (e : Entry ν) : Prop where
  contains : t.contains id = true
  value : t.value? id = some e.value
  start : t.start? id = some e.range.start
  stop : t.stop? id = some e.range.stop
  range : t.range? id = some e.range
  bytes : t.bytes? id = some e.bytes

/-- A table says nothing of a number. -/
structure Lacks (t : ValueTable ν) (id : TokenId) : Prop where
  contains : t.contains id = false
  value : t.value? id = none
  start : t.start? id = none
  stop : t.stop? id = none
  range : t.range? id = none
  bytes : t.bytes? id = none

theorem holds_of_entry? (found : t.entry? id = some e) : t.Holds id e where
  contains := contains_of_value? (show t.value? id = some e.value by rw [value?, found, Option.map_some])
  value := by rw [value?, found, Option.map_some]
  start := by rw [start?, range?, found, Option.map_some, Option.map_some]
  stop := by rw [stop?, range?, found, Option.map_some, Option.map_some]
  range := by rw [range?, found, Option.map_some]
  bytes := by rw [bytes?, found, Option.map_some]

theorem lacks_of_size (behind : t.size < id.number) : t.Lacks id := by
  have absent : t.entry? id = none := by
    have positive := id.positive
    exact Array.getElem?_eq_none (by rw [size] at behind; omega)
  exact {
    contains := decide_eq_false (Nat.not_le.mpr behind)
    value := by rw [value?, absent, Option.map_none]
    start := by rw [start?, range?, absent, Option.map_none, Option.map_none]
    stop := by rw [stop?, range?, absent, Option.map_none, Option.map_none]
    range := by rw [range?, absent, Option.map_none]
    bytes := by rw [bytes?, absent, Option.map_none] }

/-- A table stands for a sequence of entries whose numbers are those from one on: what it says of its size, of its last
number, of each number and of all of them together is what the sequence has there. -/
structure Represents (t : ValueTable ν) (stored : List (TokenId × Entry ν)) : Prop where
  numbers : stored.map (·.1.number) = List.range' 1 stored.length
  size : t.size = stored.length
  last : t.lastId? = stored.getLast?.map (·.1)
  complete : ∀ id, id.number ≤ stored.length → ∃ e, (id, e) ∈ stored
  holds : ∀ id e, (id, e) ∈ stored → t.Holds id e
  lacks : ∀ id, stored.length < id.number → t.Lacks id
  listed : t.toList = stored.map fun (id, e) => (id, e.value, e.range)

section
variable {stored : List (TokenId × Entry ν)}

theorem number_at {first i : Nat} (numbers : stored.map (·.1.number) = List.range' first stored.length)
    (found : stored[i]? = some (id, e)) : id.number = first + i := by
  obtain ⟨inside, -⟩ := List.getElem?_eq_some_iff.mp found
  have number : (stored.map (·.1.number))[i]? = some id.number := by rw [List.getElem?_map, found, Option.map_some]
  rw [numbers, List.getElem?_range' inside, Nat.one_mul] at number
  exact (Option.some.inj number).symm

/-- Entries are listed with the numbers that they have, wherever the counting starts. -/
theorem listed_numbers {first : Nat} (numbers : stored.map (·.1.number) = List.range' (first + 1) stored.length) :
    ((stored.map (·.2)).zipIdx first).filterMap (fun (e, i) =>
      (TokenId.ofNat? (i + 1)).map fun id => (id, e.value, e.range)) =
        stored.map fun (id, e) => (id, e.value, e.range) := by
  induction stored generalizing first with
  | nil => rfl
  | cons entry rest ih =>
    obtain ⟨id, e⟩ := entry
    obtain ⟨number, further⟩ := List.cons.inj numbers
    have given : TokenId.ofNat? (first + 1) = some id := by rw [← number, TokenId.ofNat?_number]
    simp only [List.map_cons, List.zipIdx_cons, List.filterMap_cons, given, Option.map_some, ih further]

theorem size_of_entries (entries : t.entries.toList = stored.map (·.2)) : t.size = stored.length := by
  rw [size, ← Array.length_toList, entries, List.length_map]

theorem represents (entries : t.entries.toList = stored.map (·.2))
    (numbers : stored.map (·.1.number) = List.range' 1 stored.length) : t.Represents stored where
  numbers := numbers
  size := size_of_entries entries
  last := by
    have size := size_of_entries entries
    rcases found : stored.getLast? with _ | ⟨id, e⟩
    · rw [lastId?, size, List.getLast?_eq_none_iff.mp found]
      rfl
    · have place := List.getLast?_eq_getElem? .. ▸ found
      obtain ⟨inside, -⟩ := List.getElem?_eq_some_iff.mp place
      have number : id.number = t.size := by
        have counted := number_at numbers place
        omega
      rw [lastId?_eq_some number, Option.map_some]
  complete := by
    intro id inside
    have positive := id.positive
    obtain ⟨⟨other, e⟩, found⟩ : ∃ entry, stored[id.number - 1]? = some entry :=
      ⟨_, List.getElem?_eq_getElem (by omega)⟩
    have number := number_at numbers found
    have same : other = id := TokenId.eq_of_number (by omega)
    exact ⟨e, same ▸ List.mem_of_getElem? found⟩
  holds := by
    intro id e member
    obtain ⟨i, found⟩ := List.mem_iff_getElem?.mp member
    have place : id.number - 1 = i := by rw [number_at numbers found, Nat.add_sub_cancel_left]
    refine holds_of_entry? ?_
    rw [ValueTable.entry?, place, ← Array.getElem?_toList, entries, List.getElem?_map, found, Option.map_some]
  lacks := by
    intro id behind
    exact lacks_of_size (by rwa [size_of_entries entries])
  listed := by rw [toList, entries, listed_numbers numbers]

end

theorem represents_calls (calls : List (Entry ν)) : (empty.appendAll calls).Represents (empty.granted calls) :=
  represents (appendAll_entries empty calls) (granted_numbers empty calls)

/-- A table is a sequence that only grows, behind whatever calls. What it stands for are the calls that were not refused
so far, with the numbers that they gave; they are those that are not reversed, as many as there are numbers. What it
says of each of them stays what that call was made with, whatever is called later.

The next call that is not reversed is stored while there are numbers left: it gives the number of calls stored so far
and one, which was the next number before it and is the last one after it. A call that is reversed is refused, as is
any call once all numbers are used up, and leaves the table as it is. -/
theorem refines_sequence (calls : List (Entry ν)) :
    let t : ValueTable ν := empty.appendAll calls
    let stored := empty.granted calls
    t.Represents stored ∧ stored.map (·.2) = (calls.filter (·.Ordered)).take capacity ∧
    (∀ id e, (id, e) ∈ stored → ∀ later, (t.appendAll later).Holds id e) ∧
    ∀ call : Entry ν,
      (call.Ordered → t.size < capacity → ∃ id t',
        t.append call.value call.range call.bytes = .ok (id, t') ∧ id.number = stored.length + 1 ∧
        t.nextId? = some id ∧ t'.lastId? = some id ∧
        empty.appendAll (calls ++ [call]) = t' ∧ empty.granted (calls ++ [call]) = stored ++ [(id, call)]) ∧
      (¬call.Ordered →
        t.append call.value call.range call.bytes = .error (.reversed call.range call.bytes) ∧
        empty.appendAll (calls ++ [call]) = t ∧ empty.granted (calls ++ [call]) = stored) ∧
      (call.Ordered → t.size = capacity → t.nextId? = none ∧
        t.append call.value call.range call.bytes = .error .full ∧
        empty.appendAll (calls ++ [call]) = t ∧ empty.granted (calls ++ [call]) = stored) := by
  intro t stored
  have represented : t.Represents stored := represents_calls calls
  refine ⟨represented, granted_calls empty calls, fun id e member later => ?_, fun call => ⟨?_, ?_, ?_⟩⟩
  · obtain ⟨table, given⟩ := calls_append empty calls later
    have grown : (t.appendAll later).Represents (empty.granted (calls ++ later)) :=
      table ▸ represents_calls (calls ++ later)
    have member : (id, e) ∈ empty.granted (calls ++ later) := given ▸ List.mem_append_left _ member
    exact grown.holds id e member
  · intro ordered room
    obtain ⟨id, number, stored⟩ := append_stored ordered room
    have last : id.number = (ValueTable.mk (t.entries.push call)).size := by
      rw [number, ValueTable.size, ValueTable.size, Array.size_push]
    exact ⟨id, _, stored, by rw [number, represented.size], nextId?_eq_some number, lastId?_eq_some last,
      concat_stored stored⟩
  · intro reversed
    exact ⟨append_reversed reversed, concat_refused (append_reversed reversed)⟩
  · intro ordered full
    have refused : t.append call.value call.range call.bytes = .error .full := append_full ordered full.ge
    exact ⟨nextId?_eq_none full.ge, refused, concat_refused refused⟩

end Lexicon.ValueTable

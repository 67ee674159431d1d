import Lexicon.Regex.Search
import Mathlib.Data.Finset.Card
import Mathlib.Data.Finset.Prod
import Mathlib.Data.Nat.Bitwise

/-! Exploration without its bounds: a derivation says which thread accepts first. The search always has steps
enough to follow the derivation to its end. -/
namespace Lexicon.Regex

/-- An address of the program, and how many characters were taken when it was entered. -/
abbrev Entry := Nat × Nat

def Thread.entry (t : Thread) : Entry := (t.address, t.taken)

/-- What the waiting threads lead to, if the places `seen` were entered before. -/
inductive Explores (program : Array Instr) : List Thread → Finset Entry → Option Thread → Prop where
  | exhausted {seen : Finset Entry} : Explores program [] seen none
  | known {t : Thread} {waiting : List Thread} {seen : Finset Entry} {result : Option Thread}
      (member : t.entry ∈ seen) (rest : Explores program waiting seen result) :
      Explores program (t :: waiting) seen result
  | lost {t : Thread} {waiting : List Thread} {seen : Finset Entry} {result : Option Thread}
      (fresh : t.entry ∉ seen) (absent : program[t.address]? = none)
      (rest : Explores program waiting seen result) : Explores program (t :: waiting) seen result
  | accept {t : Thread} {waiting : List Thread} {seen : Finset Entry} (fresh : t.entry ∉ seen)
      (found : program[t.address]? = some .accept) : Explores program (t :: waiting) seen (some t)
  | follow {t : Thread} {waiting : List Thread} {seen : Finset Entry} {result : Option Thread}
      {instr : Instr} (fresh : t.entry ∉ seen) (found : program[t.address]? = some instr)
      (onward : instr ≠ .accept)
      (rest : Explores program (t.follow instr ++ waiting) (insert t.entry seen) result) :
      Explores program (t :: waiting) seen result

theorem Explores.unique {program : Array Instr} {waiting : List Thread} {seen : Finset Entry}
    {first second : Option Thread} (left : Explores program waiting seen first)
    (right : Explores program waiting seen second) : first = second := by
  induction left with
  | exhausted => cases right; rfl
  | known member _ ih =>
    cases right with
    | known _ rest => exact ih rest
    | lost fresh | accept fresh | follow fresh => exact absurd member fresh
  | lost fresh absent _ ih =>
    cases right with
    | known member => exact absurd member fresh
    | lost _ _ rest => exact ih rest
    | accept _ found | follow _ found => simp [absent] at found
  | accept fresh found =>
    cases right with
    | known member => exact absurd member fresh
    | lost _ absent => simp [absent] at found
    | accept => rfl
    | follow _ other onward => exact absurd (Option.some.inj (other.symm.trans found)) onward
  | follow fresh found onward _ ih =>
    cases right with
    | known member => exact absurd member fresh
    | lost _ absent => simp [absent] at found
    | accept _ other => exact absurd (Option.some.inj (found.symm.trans other)) onward
    | follow _ other _ rest =>
      cases Option.some.inj (found.symm.trans other)
      exact ih rest

/-- Following an instruction keeps the sum of what was taken and what is left, and adds at most two threads. -/
theorem Thread.follow_length (t : Thread) (instr : Instr) : (t.follow instr).length ≤ 2 := by
  cases instr with
  | chars set next =>
    simp only [follow]
    split
    · simp
    · split <;> simp
  | look l next =>
    simp only [follow]
    split <;> simp
  | _ => simp [follow]

theorem Thread.follow_total {t u : Thread} {instr : Instr} (member : u ∈ t.follow instr) :
    u.taken + u.rest.length = t.taken + t.rest.length := by
  cases instr with
  | chars set next =>
    simp only [follow] at member
    split at member
    · simp at member
    · next left =>
      split at member
      · simp only [List.mem_singleton] at member
        subst member
        simp only [left, List.length_cons]
        omega
      · simp at member
  | look l next =>
    simp only [follow] at member
    split at member
    · simp only [List.mem_singleton] at member
      subst member
      rfl
    · simp at member
  | split first second =>
    simp only [follow, List.mem_cons, List.not_mem_nil, or_false] at member
    rcases member with rfl | rfl <;> rfl
  | jump next | mark group next =>
    simp only [follow, List.mem_singleton] at member
    subst member
    rfl
  | accept => simp [follow] at member

/-- The bits stand for the places that were entered. -/
structure Visited.Represents (visited : Visited) (total : Nat) (seen : Finset Entry) : Prop where
  size : visited.size = total + 1
  contains {t : Thread} : t.taken ≤ total → (visited.contains t = true ↔ t.entry ∈ seen)

theorem Visited.represents_replicate (total : Nat) :
    Visited.Represents (Array.replicate (total + 1) 0) total ∅ where
  size := Array.size_replicate
  contains := by
    intro t within
    simp [Visited.contains, Array.getD_eq_getD_getElem?, Nat.lt_succ_of_le within]

theorem Visited.Represents.insert {visited : Visited} {total : Nat} {seen : Finset Entry} {t : Thread}
    (represents : visited.Represents total seen) :
    (visited.insert t).Represents total (Insert.insert t.entry seen) where
  size := by simpa [Visited.insert] using represents.size
  contains := by
    intro u bounded
    have before := represents.contains bounded
    have inside : u.taken < visited.size := by rw [represents.size]; omega
    simp only [Visited.contains, Array.getD_eq_getD_getElem?, Array.getElem?_eq_getElem inside,
      Option.getD_some] at before
    simp only [Visited.contains, Visited.insert, Array.getD_eq_getD_getElem?, Array.getElem?_modify,
      Array.getElem?_eq_getElem inside, Finset.mem_insert, ← before]
    by_cases same : t.taken = u.taken
    · have mark : (1 <<< t.address).testBit u.address = decide (t.address = u.address) := by
        rw [Nat.one_shiftLeft, Nat.testBit_two_pow]
      simp only [same, if_true, Option.map_some, Option.getD_some, Nat.testBit_or, mark, Bool.or_eq_true,
        decide_eq_true_eq, Thread.entry, Prod.mk.injEq, and_true]
      rw [or_comm, eq_comm]
    · have other : u.entry ≠ t.entry := fun equal => same (congrArg Prod.snd equal).symm
      simp [same, other]

/-- The places that can be entered at all. -/
def entries (program : Array Instr) (total : Nat) : Finset Entry :=
  Finset.range program.size ×ˢ Finset.range (total + 1)

theorem Thread.entry_mem {program : Array Instr} {total : Nat} {t : Thread} {instr : Instr}
    (found : program[t.address]? = some instr) (within : t.taken ≤ total) : t.entry ∈ entries program total := by
  obtain ⟨inside, -⟩ := Array.getElem?_eq_some_iff.mp found
  simp only [entries, entry, Finset.mem_product, Finset.mem_range]
  omega

/-- With two steps for every place that was not entered yet and one for every waiting thread, the search
follows a derivation to its end. -/
theorem explore_explores {program : Array Instr} {total steps : Nat} {waiting : List Thread}
    {visited : Visited} {seen : Finset Entry} (represents : visited.Represents total seen)
    (inside : seen ⊆ entries program total)
    (totals : ∀ t ∈ waiting, t.taken + t.rest.length = total)
    (enough : waiting.length + 2 * (program.size * (total + 1) - seen.card) ≤ steps) :
    Explores program waiting seen (explore program steps waiting visited) := by
  induction steps generalizing waiting visited seen with
  | zero =>
    cases waiting with
    | nil => exact .exhausted
    | cons t waiting => simp only [List.length_cons] at enough; omega
  | succ steps ih =>
    cases waiting with
    | nil => exact .exhausted
    | cons t waiting =>
      have within : t.taken ≤ total := by
        have whole := totals t List.mem_cons_self
        omega
      have others : ∀ u ∈ waiting, u.taken + u.rest.length = total :=
        fun u member => totals u (List.mem_cons_of_mem t member)
      simp only [List.length_cons] at enough
      unfold explore
      by_cases member : t.entry ∈ seen
      · rw [if_pos ((represents.contains within).mpr member)]
        exact .known member (ih represents inside others (by omega))
      · rw [if_neg fun entered => member ((represents.contains within).mp entered)]
        split
        · next absent => exact .lost member absent (ih represents inside others (by omega))
        · next found => exact .accept member found
        · next instr onward found =>
          have placed := Thread.entry_mem found within
          have larger : (insert t.entry seen).card = seen.card + 1 := Finset.card_insert_of_notMem member
          have grown : insert t.entry seen ⊆ entries program total := Finset.insert_subset placed inside
          have bound := Finset.card_le_card grown
          have count : (entries program total).card = program.size * (total + 1) := by simp [entries]
          have added := t.follow_length instr
          refine .follow member found (fun accepts => onward accepts) (ih represents.insert grown ?_ ?_)
          · intro u among
            rcases List.mem_append.mp among with new | old
            · rw [Thread.follow_total new]
              exact totals t List.mem_cons_self
            · exact others u old
          · rw [List.length_append]
            omega

/-- A search from one place of a text follows its derivation. -/
theorem matchHere_explores (program : Array Instr) (before : Option Char) (rest : List Char) :
    Explores program [⟨0, before, rest, 0, []⟩] ∅ (matchHere program before rest) := by
  apply explore_explores (Visited.represents_replicate rest.length) (Finset.empty_subset _)
  · intro t member
    rw [List.mem_singleton] at member
    subst member
    exact Nat.zero_add _
  · simp only [List.length_singleton, Finset.card_empty, Nat.sub_zero, Nat.mul_assoc]
    omega

theorem matchHere_eq {program : Array Instr} {before : Option Char} {rest : List Char}
    {result : Option Thread} (explores : Explores program [⟨0, before, rest, 0, []⟩] ∅ result) :
    matchHere program before rest = result :=
  (matchHere_explores program before rest).unique explores

end Lexicon.Regex

import Lexicon.Regex.Program

/-! Programs can be moved: the block of an expression at another address, with its groups renumbered, is the same
block with every address and every group moved. No block jumps out of itself except to where it goes on. -/
namespace Lexicon.Regex

/-- The instruction with its addresses moved up by `distance` and its group renumbered. -/
def Instr.moved (distance : Nat) (number : Nat → Nat) : Instr → Instr
  | chars set next => chars set (next + distance)
  | look l next => look l (next + distance)
  | split first second => split (first + distance) (second + distance)
  | jump next => jump (next + distance)
  | mark group next => mark (number group) (next + distance)
  | accept => accept

/-- The addresses at which an instruction goes on. -/
def Instr.targets : Instr → List Nat
  | chars _ next | look _ next | jump next | mark _ next => [next]
  | split first second => [first, second]
  | accept => []

/-- The group that an instruction marks. -/
def Instr.group? : Instr → Option Nat
  | mark group _ => some group
  | _ => none

theorem Instr.moved_enter (distance : Nat) (number : Nat → Nat) (greedy : Bool) (body past : Nat) :
    (enter greedy body past).moved distance number = enter greedy (body + distance) (past + distance) := by
  cases greedy <;> rfl

/-- The instruction goes on between two addresses, and marks no group but those of a list. -/
def Instr.Within (lo hi : Nat) (marks : List Nat) (instr : Instr) : Prop :=
  instr ≠ .accept ∧ (∀ target ∈ instr.targets, lo ≤ target ∧ target ≤ hi) ∧
    ∀ group ∈ instr.group?, group ∈ marks

theorem Instr.within_enter {lo hi body past : Nat} {marks : List Nat} (greedy : Bool) (lowBody : lo ≤ body)
    (highBody : body ≤ hi) (lowPast : lo ≤ past) (highPast : past ≤ hi) :
    (enter greedy body past).Within lo hi marks := by
  cases greedy <;> simp [enter, Within, targets, group?, *]

namespace Expr

/-- The expression with its groups renumbered. -/
def renumber (number : Nat → Nat) : Expr → Expr
  | empty => empty
  | chars set unicode => chars set unicode
  | look l => look l
  | seq a b => seq (a.renumber number) (b.renumber number)
  | alt a b => alt (a.renumber number) (b.renumber number)
  | loop least most greedy body => loop least most greedy (body.renumber number)
  | capture index body => capture (number index) (body.renumber number)

@[simp] theorem renumber_id (e : Expr) : e.renumber id = e := by
  induction e with
  | empty | chars | look => rfl
  | seq a b iha ihb | alt a b iha ihb => simp only [renumber, iha, ihb]
  | loop least most greedy body ih | capture index body ih => simp only [renumber, ih, id]

@[simp] theorem consumes_renumber (number : Nat → Nat) (e : Expr) :
    (e.renumber number).consumes = e.consumes := by
  induction e with
  | empty | chars | look => rfl
  | seq a b iha ihb | alt a b iha ihb => simp only [renumber, consumes, iha, ihb]
  | loop least most greedy body ih | capture index body ih => simp only [renumber, consumes, ih]

@[simp] theorem size_renumber (number : Nat → Nat) (e : Expr) : (e.renumber number).size = e.size := by
  induction e with
  | empty | chars | look => rfl
  | seq a b iha ihb | alt a b iha ihb => simp only [renumber, size, iha, ihb]
  | capture index body ih => simp only [renumber, size, ih]
  | loop least most greedy body ih =>
    cases least <;> cases most <;> simp only [renumber, size, ih, consumes_renumber]

section
variable {body moved : Nat → Nat → List Instr} {distance : Nat} {number : Nat → Nat}

private theorem shifted (distance base more : Nat) : base + distance + more = base + more + distance :=
  Nat.add_right_comm base distance more

theorem copies_moved
    (same : ∀ base next, moved (base + distance) (next + distance) = (body base next).map (·.moved distance number))
    (size count base next : Nat) :
    copies moved size count (base + distance) (next + distance) =
      (copies body size count base next).map (·.moved distance number) := by
  induction count generalizing base with
  | zero => rfl
  | succ count ih =>
    simp only [copies, List.map_append, shifted distance, ih, ← same]
    cases count <;> rfl

theorem options_moved
    (same : ∀ base next, moved (base + distance) (next + distance) = (body base next).map (·.moved distance number))
    (size : Nat) (greedy : Bool) (count base next : Nat) :
    options moved size greedy count (base + distance) (next + distance) =
      (options body size greedy count base next).map (·.moved distance number) := by
  induction count generalizing base with
  | zero => rfl
  | succ count ih =>
    simp only [options, List.map_cons, List.map_append, Instr.moved_enter, shifted distance, ih, ← same]
    cases count <;> rfl

/-- The block of an expression can be moved. -/
theorem code_moved (distance : Nat) (number : Nat → Nat) (e : Expr) (base next : Nat) :
    (e.renumber number).code (base + distance) (next + distance) =
      (e.code base next).map (·.moved distance number) := by
  induction e generalizing base next with
  | empty | chars | look => rfl
  | seq a b iha ihb =>
    simp only [renumber, code, size_renumber, shifted distance, iha, ihb, List.map_append]
  | alt a b iha ihb =>
    simp only [renumber, code, size_renumber, shifted distance, iha, ihb, List.map_append, List.map_cons,
      Instr.moved]
  | capture index body ih =>
    simp only [renumber, code, size_renumber, shifted distance, ih, List.map_append, List.map_cons,
      List.map_nil, Instr.moved]
  | loop least most greedy body ih =>
    cases most with
    | none =>
      cases least with
      | zero =>
        simp only [renumber, code, consumes_renumber, size_renumber, shifted distance, ih]
        split <;> simp only [List.map_append, List.map_cons, List.map_nil, Instr.moved_enter]
      | succ least =>
        simp only [renumber, code, size_renumber, shifted distance, ih, copies_moved ih, List.map_append,
          List.map_cons, List.map_nil, Instr.moved_enter]
    | some most =>
      simp only [renumber, code, size_renumber, shifted distance]
      split
      · rfl
      · rw [List.map_append, ← copies_moved ih, ← options_moved ih]
        split <;> rfl

end

/-- The numbers of the groups, from left to right. -/
def groups : Expr → List Nat
  | empty | chars _ _ | look _ => []
  | seq a b | alt a b => a.groups ++ b.groups
  | loop _ _ _ body => body.groups
  | capture index body => index :: body.groups

@[simp] theorem groups_ofSet (unicode : Bool) (set : CharSet) : (ofSet unicode set).groups = [] := rfl

/-- The highest number is that of a group, unless there is no group at all. -/
theorem highestGroup_mem (e : Expr) : e.highestGroup = 0 ∨ e.highestGroup ∈ e.groups := by
  induction e with
  | empty | chars | look => exact .inl rfl
  | seq a b iha ihb | alt a b iha ihb =>
    rw [highestGroup, groups, List.mem_append]
    rcases Nat.le_total a.highestGroup b.highestGroup with below | above
    · rw [Nat.max_eq_right below]
      exact ihb.imp_right .inr
    · rw [Nat.max_eq_left above]
      exact iha.imp_right .inl
  | loop least most greedy body ih => exact ih
  | capture index body ih =>
    rw [highestGroup, groups, List.mem_cons]
    rcases Nat.le_total index body.highestGroup with below | above
    · rw [Nat.max_eq_right below]
      exact ih.imp_right .inr
    · rw [Nat.max_eq_left above]
      exact .inr (.inl rfl)

theorem le_highestGroup {e : Expr} {group : Nat} (member : group ∈ e.groups) : group ≤ e.highestGroup := by
  induction e with
  | empty | chars | look => simp [groups] at member
  | seq a b iha ihb | alt a b iha ihb =>
    rw [highestGroup]
    rcases List.mem_append.mp member with first | second
    · exact Nat.le_trans (iha first) (Nat.le_max_left _ _)
    · exact Nat.le_trans (ihb second) (Nat.le_max_right _ _)
  | loop least most greedy body ih => exact ih member
  | capture index body ih =>
    rw [highestGroup]
    rcases List.mem_cons.mp member with rfl | inner
    · exact Nat.le_max_left _ _
    · exact Nat.le_trans (ih inner) (Nat.le_max_right _ _)

theorem groups_renumber (number : Nat → Nat) (e : Expr) : (e.renumber number).groups = e.groups.map number := by
  induction e with
  | empty | chars | look => rfl
  | seq a b iha ihb | alt a b iha ihb => simp only [renumber, groups, List.map_append, iha, ihb]
  | loop least most greedy body ih | capture index body ih =>
    simp only [renumber, groups, List.map_cons, ih]

section
variable {body : Nat → Nat → List Instr} {size lo hi : Nat} {marks : List Nat}

theorem copies_within
    (each : ∀ base next, lo ≤ base → base + size ≤ hi → lo ≤ next → next ≤ hi →
      ∀ instr ∈ body base next, instr.Within lo hi marks)
    (count base next : Nat) (above : lo ≤ base) (below : base + count * size ≤ hi) (low : lo ≤ next)
    (high : next ≤ hi) : ∀ instr ∈ copies body size count base next, instr.Within lo hi marks := by
  induction count generalizing base with
  | zero => simp [copies]
  | succ count ih =>
    rw [Nat.succ_mul] at below
    intro instr member
    rcases List.mem_append.mp member with first | later
    · refine each base _ above (by omega) ?_ ?_ instr first <;> split <;> omega
    · exact ih (base + size) (by omega) (by omega) instr later

theorem options_within
    (each : ∀ base next, lo ≤ base → base + size ≤ hi → lo ≤ next → next ≤ hi →
      ∀ instr ∈ body base next, instr.Within lo hi marks)
    (greedy : Bool) (count base next : Nat) (above : lo ≤ base) (below : base + count * (1 + size) ≤ hi)
    (low : lo ≤ next) (high : next ≤ hi) :
    ∀ instr ∈ options body size greedy count base next, instr.Within lo hi marks := by
  induction count generalizing base with
  | zero => simp [options]
  | succ count ih =>
    rw [Nat.succ_mul] at below
    intro instr member
    rcases List.mem_cons.mp member with rfl | inner
    · exact Instr.within_enter greedy (by omega) (by omega) low high
    · rcases List.mem_append.mp inner with first | later
      · refine each (base + 1) _ (by omega) (by omega) ?_ ?_ instr first <;> split <;> omega
      · exact ih (base + 1 + size) (by omega) (by omega) instr later

/-- The block of an expression goes on inside itself or at `next`, and marks no group but its own. -/
theorem code_within (e : Expr) (own : e.groups ⊆ marks) (base next : Nat) (above : lo ≤ base)
    (below : base + e.size ≤ hi) (low : lo ≤ next) (high : next ≤ hi) :
    ∀ instr ∈ e.code base next, instr.Within lo hi marks := by
  induction e generalizing base next with
  | empty | chars | look =>
    intro instr member
    rw [code, List.mem_singleton] at member
    subst member
    simp [Instr.Within, Instr.targets, Instr.group?, low, high]
  | seq a b iha ihb =>
    simp only [groups, List.append_subset] at own
    rw [size] at below
    intro instr member
    rcases List.mem_append.mp member with first | second
    · exact iha own.1 base _ above (by omega) (by omega) (by omega) instr first
    · exact ihb own.2 _ next (by omega) (by omega) low high instr second
  | alt a b iha ihb =>
    simp only [groups, List.append_subset] at own
    rw [size] at below
    intro instr member
    rcases List.mem_cons.mp member with rfl | inner
    · exact Instr.within_enter true (by omega) (by omega) (by omega) (by omega)
    · rcases List.mem_append.mp inner with first | second
      · exact iha own.1 _ next (by omega) (by omega) low high instr first
      · exact ihb own.2 _ next (by omega) (by omega) low high instr second
  | capture index body ih =>
    simp only [groups, List.cons_subset] at own
    rw [size] at below
    intro instr member
    rcases List.mem_append.mp member with inner | last
    · exact ih own.2 base _ above (by omega) (by omega) (by omega) instr inner
    · rw [List.mem_singleton] at last
      subst last
      simp [Instr.Within, Instr.targets, Instr.group?, low, high, own.1]
  | loop least most greedy body ih =>
    rw [groups] at own
    have each := ih own
    intro instr member
    cases most with
    | none =>
      cases least with
      | zero =>
        rw [code] at member
        rw [size] at below
        split at member
        · next consumes =>
          rw [if_pos consumes] at below
          rcases List.mem_cons.mp member with rfl | inner
          · exact Instr.within_enter greedy (by omega) (by omega) low high
          · exact each _ _ (by omega) (by omega) above (by omega) instr inner
        · next optional =>
          rw [if_neg optional] at below
          rcases List.mem_cons.mp member with rfl | inner
          · exact Instr.within_enter greedy (by omega) (by omega) low high
          · rcases List.mem_append.mp inner with once | last
            · exact each _ _ (by omega) (by omega) (by omega) (by omega) instr once
            · rw [List.mem_singleton] at last
              subst last
              exact Instr.within_enter greedy (by omega) (by omega) low high
      | succ least =>
        rw [size, Nat.succ_mul] at below
        · rcases List.mem_append.mp member with first | rest
          · exact copies_within each least base _ above (by omega) (by omega) (by omega) instr first
          · rcases List.mem_append.mp rest with once | last
            · exact each _ _ (by omega) (by omega) (by omega) (by omega) instr once
            · rw [List.mem_singleton] at last
              subst last
              exact Instr.within_enter greedy (by omega) (by omega) low high
        · simp
    | some most =>
      rw [code] at member
      rw [size] at below
      split at member
      · rw [List.mem_singleton] at member
        subst member
        simp [Instr.Within, Instr.targets, Instr.group?, low, high]
      · next positive =>
        rw [if_neg positive] at below
        rcases List.mem_append.mp member with needed | optional
        · refine copies_within each least base _ above (by omega) ?_ ?_ instr needed <;> split <;> omega
        · exact options_within each greedy _ _ next (by omega) (by omega) low high instr optional

end

end Expr
end Lexicon.Regex

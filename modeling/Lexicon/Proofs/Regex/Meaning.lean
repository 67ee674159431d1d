import Lexicon.Proofs.Regex.Shape
import Mathlib.Data.List.Infix

/-! What lowering leaves of a tree: the meaning is in normal form, and its groups are groups of the tree in their
order, some of them perhaps missing. -/
namespace Lexicon.Regex

namespace Expr

/-- A sequence that is the chain of its parts. -/
def Normal (e : Expr) : Prop := chain e.parts = e

/-- A part of a sequence that is neither nothing nor a sequence itself. -/
def Atomic (e : Expr) : Prop := e.parts = [e]

theorem Atomic.normal {e : Expr} (atomic : e.Atomic) : e.Normal := by
  rw [Normal, atomic]
  rfl

theorem parts_atomic {e part : Expr} (member : part ∈ e.parts) : part.Atomic := by
  induction e with
  | empty => simp [parts] at member
  | seq a b iha ihb =>
    rcases List.mem_append.mp member with first | second
    · exact iha first
    · exact ihb second
  | _ =>
    have same := List.mem_singleton.mp member
    subst same
    rfl

theorem parts_chain {es : List Expr} (atomic : ∀ e ∈ es, e.Atomic) : (chain es).parts = es := by
  induction es with
  | nil => rfl
  | cons e es ih =>
    have first := atomic e List.mem_cons_self
    cases es with
    | nil => exact first
    | cons next es =>
      rw [chain, parts, first, ih fun part member => atomic part (List.mem_cons_of_mem e member)]
      · rfl
      · simp

theorem chain_normal {es : List Expr} (atomic : ∀ e ∈ es, e.Atomic) : (chain es).Normal := by
  rw [Normal, parts_chain atomic]

theorem seqAll_normal (es : List Expr) : (seqAll es).Normal := by
  apply chain_normal
  intro part member
  obtain ⟨e, -, inside⟩ := List.mem_flatMap.mp member
  exact parts_atomic inside

theorem choice_atomic {es : List Expr} (several : es.length ≠ 1) : (choice es).Atomic := by
  match es with
  | [] | _ :: _ :: _ => rfl
  | [_] => simp at several

theorem gather_flatten (es : List Expr) : (gather es).flatten = es := by
  induction es with
  | nil => rfl
  | cons e es ih =>
    rw [gather]
    cases gathered : gather es with
    | nil =>
      rw [gathered] at ih
      simp [← ih]
    | cons run runs =>
      rw [gathered] at ih
      simp only
      split <;> simp [← ih]

theorem commonStart_prefix (as bs : List (List Expr)) :
    commonStart as bs <+: as ∧ commonStart as bs <+: bs := by
  induction as generalizing bs with
  | nil => exact ⟨List.nil_prefix, List.nil_prefix⟩
  | cons a as ih =>
    cases bs with
    | nil => exact ⟨List.nil_prefix, List.nil_prefix⟩
    | cons b bs =>
      rw [commonStart]
      split
      · next same =>
        subst same
        simpa only [List.prefix_cons_inj] using ih bs
      · exact ⟨List.nil_prefix, List.nil_prefix⟩

theorem sharedStart_prefix {sequences : List (List (List Expr))} {runs : List (List Expr)}
    (member : runs ∈ sequences) : sharedStart sequences <+: runs := by
  induction sequences with
  | nil => simp at member
  | cons first rest ih =>
    cases rest with
    | nil =>
      rw [List.mem_singleton] at member
      subst member
      exact List.prefix_refl _
    | cons next rest =>
      have both := commonStart_prefix first (sharedStart (next :: rest))
      rw [sharedStart]
      · rcases List.mem_cons.mp member with rfl | later
        · exact both.1
        · exact both.2.trans (ih later)
      · simp

theorem branches_cases (e : Expr) : e.branches = [e] ∨ 2 ≤ e.branches.length := by
  have some (e : Expr) : 1 ≤ e.branches.length := by
    induction e with
    | alt a b iha ihb =>
      rw [branches, List.length_append]
      omega
    | _ => exact Nat.le_refl 1
  cases e with
  | alt a b =>
    right
    have first := some a
    have second := some b
    rw [branches, List.length_append]
    omega
  | _ => exact .inl rfl

theorem flatten_length (es : List Expr) : es.length ≤ (es.flatMap branches).length := by
  induction es with
  | nil => exact Nat.le_refl 0
  | cons e es ih =>
    rw [List.flatMap_cons, List.length_append, List.length_cons]
    rcases e.branches_cases with alone | several
    · rw [alone, List.length_singleton]
      omega
    · omega

theorem flatten_single {es : List Expr} {e : Expr} (single : es.flatMap branches = [e]) : e ∈ es := by
  have short := flatten_length es
  rw [single, List.length_singleton] at short
  match es, short with
  | [first], _ =>
    rw [List.flatMap_singleton] at single
    rcases first.branches_cases with alone | several
    · rw [alone] at single
      exact single ▸ List.mem_cons_self
    · rw [single, List.length_singleton] at several
      omega

theorem join_atomic {es : List Expr} (several : es.length ≠ 1) : (join es).Atomic := by
  unfold join
  split
  · rfl
  · exact choice_atomic several

theorem join_normal {es : List Expr} (normal : ∀ e, es = [e] → e.Normal) : (join es).Normal := by
  by_cases single : ∃ e, es = [e]
  · obtain ⟨e, rfl⟩ := single
    exact normal e rfl
  · apply (join_atomic fun one => single (List.length_eq_one_iff.mp one)).normal

theorem altAll_normal {es : List Expr} (normal : ∀ e ∈ es, e.Normal) : (altAll es).Normal := by
  unfold altAll
  simp only
  split
  · next lifted =>
    apply chain_normal
    intro part member
    rcases List.mem_append.mp member with shared | last
    · obtain ⟨run, among, inside⟩ := List.mem_flatten.mp shared
      cases flat : es.flatMap branches with
      | nil => simp [flat, sharedStart] at among
      | cons e rest =>
        rw [flat] at among
        have prefixed : sharedStart ((e :: rest).map fun e => gather e.parts) <+: gather e.parts :=
          sharedStart_prefix (by simp)
        have among : part ∈ (gather e.parts).flatten :=
          List.mem_flatten.mpr ⟨run, prefixed.subset among, inside⟩
        rw [gather_flatten] at among
        exact parts_atomic among
    · rw [List.mem_singleton] at last
      subst last
      apply join_atomic
      have several := flatten_length <| ((es.flatMap branches).map fun e => gather e.parts).map fun runs =>
        chain (runs.drop (sharedStart ((es.flatMap branches).map fun e => gather e.parts)).length).flatten
      rw [List.length_map, List.length_map] at several
      omega
  · exact join_normal fun e single => normal e (flatten_single single)

theorem repeated_cases (least : Nat) (most : Option Nat) (greedy : Bool) (e : Expr) :
    repeated least most greedy e = empty ∨ repeated least most greedy e = e ∨
      ∃ fewest highest, repeated least most greedy e = loop fewest highest greedy e := by
  unfold repeated
  generalize (if e.isZeroWidth = true then (min least 1, some (most.elim 1 (min · 1))) else (least, most)) = bounds
  simp only
  split
  · exact .inl rfl
  · split
    · exact .inr (.inl rfl)
    · exact .inr (.inr ⟨_, _, rfl⟩)

theorem repeated_normal (least : Nat) (most : Option Nat) (greedy : Bool) {e : Expr} (normal : e.Normal) :
    (repeated least most greedy e).Normal := by
  rcases repeated_cases least most greedy e with nothing | once | ⟨fewest, highest, looped⟩
  · rw [nothing]
    rfl
  · rwa [once]
  · rw [looped]
    rfl

end Expr

theorem GroupKind.wrap_normal (kind : GroupKind) {e : Expr} (normal : e.Normal) : (kind.wrap e).Normal := by
  cases kind with
  | plain items => exact normal
  | _ => rfl

section
variable [Engine]

mutual
/-- Meanings are in normal form. -/
theorem Tree.lower_normal {flags after : Flags} {e : Expr} : (t : Tree) →
    t.lower flags = .ok (e, after) → e.Normal
  | .empty _, lowered | .flags _ _, lowered | .anchor _ _, lowered => by
    simp only [Tree.lower, Except.ok.injEq, Prod.mk.injEq] at lowered
    rw [← lowered.1]
    rfl
  | .literal l, lowered => by
    simp only [Tree.lower, Literal.lower] at lowered
    split at lowered
    · simp [Except.map] at lowered
    · simp only [Except.map, Except.ok.injEq, Prod.mk.injEq] at lowered
      rw [← lowered.1]
      rfl
  | .dot _, lowered => by
    simp only [Tree.lower, Regex.dot] at lowered
    repeat' split at lowered
    all_goals simp only [Except.map, reduceCtorEq, Except.ok.injEq, Prod.mk.injEq] at lowered
    all_goals
      rw [← lowered.1]
      rfl
  | .property span negated query, lowered => by
    rw [Tree.lower] at lowered
    cases found : propertySet flags span negated query <;>
      simp only [found, Except.map, reduceCtorEq, Except.ok.injEq, Prod.mk.injEq] at lowered
    rw [← lowered.1]
    rfl
  | .perl span negated name, lowered => by
    rw [Tree.lower] at lowered
    cases found : perlSet flags span negated name <;>
      simp only [found, Except.map, reduceCtorEq, Except.ok.injEq, Prod.mk.injEq] at lowered
    rw [← lowered.1]
    rfl
  | .bracket span negated body, lowered => by
    rw [Tree.lower] at lowered
    split at lowered
    · simp at lowered
    · next set _ =>
      cases found : negate flags span negated (flags.fold set) <;>
        simp only [found, Except.map, reduceCtorEq, Except.ok.injEq, Prod.mk.injEq] at lowered
      rw [← lowered.1]
      rfl
  | .repetition _ count greedy body, lowered => by
    rw [Tree.lower] at lowered
    split at lowered
    · simp at lowered
    · next found =>
      simp only [Except.ok.injEq, Prod.mk.injEq] at lowered
      rw [← lowered.1]
      exact Expr.repeated_normal _ _ _ (Tree.lower_normal body found)
  | .group _ kind body, lowered => by
    rw [Tree.lower] at lowered
    split at lowered
    · simp at lowered
    · next found =>
      simp only [Except.ok.injEq, Prod.mk.injEq] at lowered
      rw [← lowered.1]
      exact kind.wrap_normal (Tree.lower_normal body found)
  | .alternation _ branches, lowered => by
    rw [Tree.lower] at lowered
    split at lowered
    · simp at lowered
    · next found =>
      simp only [Except.ok.injEq, Prod.mk.injEq] at lowered
      rw [← lowered.1]
      exact Expr.altAll_normal (Tree.lowerAll_normal branches found)
  | .concat _ parts, lowered => by
    rw [Tree.lower] at lowered
    split at lowered
    · simp at lowered
    · simp only [Except.ok.injEq, Prod.mk.injEq] at lowered
      rw [← lowered.1]
      exact Expr.seqAll_normal _

theorem Tree.lowerAll_normal {flags after : Flags} {es : List Expr} : (trees : List Tree) →
    Tree.lowerAll flags trees = .ok (es, after) → ∀ e ∈ es, e.Normal
  | [], lowered => by
    simp only [Tree.lowerAll, Except.ok.injEq, Prod.mk.injEq] at lowered
    simp [← lowered.1]
  | tree :: trees, lowered => by
    rw [Tree.lowerAll] at lowered
    split at lowered
    · simp at lowered
    · next first =>
      split at lowered
      · simp at lowered
      · next rest =>
        simp only [Except.ok.injEq, Prod.mk.injEq] at lowered
        rw [← lowered.1]
        intro e member
        rcases List.mem_cons.mp member with rfl | later
        · exact Tree.lower_normal tree first
        · exact Tree.lowerAll_normal trees rest e later
end

end

/-- The number of a group that captures. -/
def GroupKind.index? : GroupKind → Option Nat
  | .capture index | .named index _ => some index
  | .plain _ => none

mutual
/-- The numbers of the groups that capture, in the order in which they open. -/
def Tree.groups : Tree → List Nat
  | .repetition _ _ _ body => body.groups
  | .group _ kind body => kind.index?.toList ++ body.groups
  | .alternation _ trees | .concat _ trees => Tree.groupsAll trees
  | _ => []

def Tree.groupsAll : List Tree → List Nat
  | [] => []
  | tree :: trees => tree.groups ++ Tree.groupsAll trees
end

namespace Expr

theorem parts_groups (e : Expr) : e.parts.flatMap groups = e.groups := by
  induction e with
  | seq a b iha ihb => rw [parts, List.flatMap_append, iha, ihb, groups]
  | empty => rfl
  | _ => exact List.flatMap_singleton groups _

theorem chain_groups (es : List Expr) : (chain es).groups = es.flatMap groups := by
  induction es with
  | nil => rfl
  | cons e es ih =>
    cases es with
    | nil => exact (List.flatMap_singleton groups e).symm
    | cons next es =>
      change (seq e (chain (next :: es))).groups = _
      rw [groups, ih, List.flatMap_cons (x := e)]

theorem choice_groups (es : List Expr) : (choice es).groups = es.flatMap groups := by
  induction es with
  | nil => rfl
  | cons e es ih =>
    cases es with
    | nil => exact (List.flatMap_singleton groups e).symm
    | cons next es =>
      change (alt e (choice (next :: es))).groups = _
      rw [groups, ih, List.flatMap_cons (x := e)]

theorem seqAll_groups (es : List Expr) : (seqAll es).groups = es.flatMap groups := by
  rw [seqAll, chain_groups, List.flatMap_assoc]
  simp only [parts_groups]

theorem flatten_groups (es : List Expr) : (es.flatMap branches).flatMap groups = es.flatMap groups := by
  have each (e : Expr) : e.branches.flatMap groups = e.groups := by
    induction e with
    | alt a b iha ihb => rw [branches, List.flatMap_append, iha, ihb, groups]
    | _ => exact List.flatMap_singleton groups _
  rw [List.flatMap_assoc]
  simp only [each]

theorem join_groups (es : List Expr) : (join es).groups = es.flatMap groups := by
  unfold join
  split
  · next merged =>
    have chars : ∀ e ∈ es, e.groups = [] := by
      intro e member
      rcases merged.2 with single | sets
      · have held := List.all_eq_true.mp single e member
        cases e <;> simp_all [isSingle, groups]
      · have held := List.all_eq_true.mp sets e member
        cases e <;> simp_all [isClass, groups]
    rw [groups_ofSet, eq_comm, List.flatMap_eq_nil_iff]
    exact chars
  · exact choice_groups es

/-- The groups of an alternation are those of its branches; what is put in front of the branches is counted once. -/
theorem altAll_cases (es : List Expr) : (altAll es).groups = (es.flatMap branches).flatMap groups ∨
    ∃ (shared : List Nat) (rest : Expr → List Nat), 2 ≤ (es.flatMap branches).length ∧
      (altAll es).groups = shared ++ (es.flatMap branches).flatMap rest ∧
      ∀ e ∈ es.flatMap branches, e.groups = shared ++ rest e := by
  unfold altAll
  generalize es.flatMap branches = flat
  simp only
  generalize start : sharedStart (flat.map fun e => gather e.parts) = shared
  split
  · next lifted =>
    right
    refine ⟨shared.flatten.flatMap groups, fun e => ((gather e.parts).drop shared.length).flatten.flatMap groups,
      lifted.1, ?_, ?_⟩
    · rw [chain_groups, List.flatMap_append, List.flatMap_singleton, join_groups, flatten_groups]
      simp only [List.flatMap_map, chain_groups]
    · intro e member
      have prefixed : shared <+: gather e.parts := start ▸ sharedStart_prefix (List.mem_map_of_mem member)
      rw [← List.flatMap_append, ← List.flatten_append, List.prefix_iff_eq_append.mp prefixed, gather_flatten,
        parts_groups]
  · exact .inl (join_groups flat)

theorem lifted_groups {es : List Expr} {shared : List Nat} {rest : Expr → List Nat}
    (split : ∀ e ∈ es, e.groups = shared ++ rest e) : (es.flatMap rest).Sublist (es.flatMap groups) := by
  induction es with
  | nil => exact List.Sublist.refl _
  | cons e es ih =>
    rw [List.flatMap_cons, List.flatMap_cons, split e List.mem_cons_self]
    exact (List.sublist_append_right _ _).append (ih fun other member => split other (List.mem_cons_of_mem e member))

theorem altAll_groups (es : List Expr) : (altAll es).groups.Sublist (es.flatMap groups) := by
  rw [← flatten_groups]
  rcases altAll_cases es with same | ⟨shared, rest, several, lifted, split⟩
  · rw [same]
  · rw [lifted]
    cases flat : es.flatMap branches with
    | nil => simp [flat] at several
    | cons e flat' =>
      rw [flat] at split
      rw [List.flatMap_cons, List.flatMap_cons, split e List.mem_cons_self, ← List.append_assoc]
      exact (List.Sublist.refl _).append
        (lifted_groups fun other member => split other (List.mem_cons_of_mem e member))

/-- Branches with groups of their own share none that could be put in front of them. -/
theorem altAll_keeps {es : List Expr} (own : (es.flatMap groups).Nodup) :
    (altAll es).groups = es.flatMap groups := by
  rw [← flatten_groups] at own ⊢
  rcases altAll_cases es with same | ⟨shared, rest, several, lifted, split⟩
  · exact same
  · match flat : es.flatMap branches, several with
    | e :: next :: others, _ =>
      rw [flat] at own split lifted
      have none : shared = [] := by
        rw [List.flatMap_cons, List.flatMap_cons, split e (by simp), split next (by simp)] at own
        have apart := (List.nodup_append.mp own).2.2
        refine List.eq_nil_iff_forall_not_mem.mpr fun group member => ?_
        exact apart group (by simp [member]) group (by simp [member]) rfl
      rw [lifted, none, List.nil_append]
      simp only [none, List.nil_append] at split
      exact List.flatMap_congr fun e member => (split e member).symm

theorem repeated_groups (least : Nat) (most : Option Nat) (greedy : Bool) (e : Expr) :
    (repeated least most greedy e).groups.Sublist e.groups := by
  rcases repeated_cases least most greedy e with nothing | once | ⟨fewest, highest, looped⟩
  · rw [nothing]
    exact List.nil_sublist _
  · rw [once]
  · rw [looped]
    exact List.Sublist.refl _

/-- Only what is repeated no time loses its groups. -/
theorem repeated_keeps (least : Nat) {most : Option Nat} (greedy : Bool) (e : Expr) :
    (repeated least most greedy e).groups = if most = some 0 then [] else e.groups := by
  have capped : (some (most.elim 1 (min · 1)) : Option Nat) = some 0 ↔ most = some 0 := by
    cases most with
    | none => simp
    | some most =>
      simp only [Option.elim, Option.some.injEq]
      omega
  unfold repeated
  by_cases never : most = some 0
  · cases e.isZeroWidth <;> simp [never, groups]
  · rw [if_neg never]
    cases e.isZeroWidth with
    | true =>
      simp only [if_true]
      rw [if_neg (mt capped.mp never)]
      split <;> rfl
    | false =>
      simp only [Bool.false_eq_true, if_false]
      rw [if_neg never]
      split <;> rfl

end Expr

theorem GroupKind.wrap_groups (kind : GroupKind) (e : Expr) :
    (kind.wrap e).groups = kind.index?.toList ++ e.groups := by
  cases kind <;> rfl

/-- A set of characters has no groups. -/
theorem chars_groups {found : Except Diagnostic CharSet} {flags after : Flags} {e : Expr}
    (lowered : (found.map fun set => (Expr.ofSet flags.unicode set, flags)) = .ok (e, after)) : e.groups = [] := by
  cases found with
  | error d => simp [Except.map] at lowered
  | ok set =>
    simp only [Except.map, Except.ok.injEq, Prod.mk.injEq] at lowered
    rw [← lowered.1, Expr.groups_ofSet]

section
variable [Engine]

mutual
/-- The groups of a meaning are groups of the tree, in their order. -/
theorem Tree.lower_groups {flags after : Flags} {e : Expr} : (t : Tree) →
    t.lower flags = .ok (e, after) → e.groups.Sublist t.groups
  | .empty _, lowered | .flags _ _, lowered | .anchor _ _, lowered => by
    simp only [Tree.lower, Except.ok.injEq, Prod.mk.injEq] at lowered
    rw [← lowered.1, Expr.groups]
    exact List.nil_sublist _
  | .literal l, lowered => by
    simp only [Tree.lower, Literal.lower] at lowered
    split at lowered
    · simp [Except.map] at lowered
    · simp only [Except.map, Except.ok.injEq, Prod.mk.injEq] at lowered
      rw [← lowered.1, Expr.groups_ofSet]
      exact List.nil_sublist _
  | .dot _, lowered => by
    simp only [Tree.lower, Regex.dot] at lowered
    repeat' split at lowered
    all_goals simp only [Except.map, reduceCtorEq, Except.ok.injEq, Prod.mk.injEq] at lowered
    all_goals
      rw [← lowered.1, Expr.groups_ofSet]
      exact List.nil_sublist _
  | .property _ _ _, lowered | .perl _ _ _, lowered => by
    rw [chars_groups lowered]
    exact List.nil_sublist _
  | .bracket _ _ body, lowered => by
    rw [Tree.lower] at lowered
    split at lowered
    · simp at lowered
    · rw [chars_groups lowered]
      exact List.nil_sublist _
  | .repetition _ count greedy body, lowered => by
    rw [Tree.lower] at lowered
    split at lowered
    · simp at lowered
    · next found =>
      simp only [Except.ok.injEq, Prod.mk.injEq] at lowered
      rw [← lowered.1, Tree.groups]
      exact (Expr.repeated_groups _ _ _ _).trans (Tree.lower_groups body found)
  | .group _ kind body, lowered => by
    rw [Tree.lower] at lowered
    split at lowered
    · simp at lowered
    · next found =>
      simp only [Except.ok.injEq, Prod.mk.injEq] at lowered
      rw [← lowered.1, Tree.groups, kind.wrap_groups]
      exact (List.Sublist.refl _).append (Tree.lower_groups body found)
  | .alternation _ branches, lowered => by
    rw [Tree.lower] at lowered
    split at lowered
    · simp at lowered
    · next found =>
      simp only [Except.ok.injEq, Prod.mk.injEq] at lowered
      rw [← lowered.1, Tree.groups]
      exact (Expr.altAll_groups _).trans (Tree.lowerAll_groups branches found)
  | .concat _ parts, lowered => by
    rw [Tree.lower] at lowered
    split at lowered
    · simp at lowered
    · next found =>
      simp only [Except.ok.injEq, Prod.mk.injEq] at lowered
      rw [← lowered.1, Tree.groups, Expr.seqAll_groups]
      exact Tree.lowerAll_groups parts found

theorem Tree.lowerAll_groups {flags after : Flags} {es : List Expr} : (trees : List Tree) →
    Tree.lowerAll flags trees = .ok (es, after) → (es.flatMap Expr.groups).Sublist (Tree.groupsAll trees)
  | [], lowered => by
    simp only [Tree.lowerAll, Except.ok.injEq, Prod.mk.injEq] at lowered
    rw [← lowered.1]
    exact List.Sublist.refl _
  | tree :: trees, lowered => by
    rw [Tree.lowerAll] at lowered
    split at lowered
    · simp at lowered
    · next first =>
      split at lowered
      · simp at lowered
      · next rest =>
        simp only [Except.ok.injEq, Prod.mk.injEq] at lowered
        rw [← lowered.1, List.flatMap_cons, Tree.groupsAll]
        exact (Tree.lower_groups tree first).append (Tree.lowerAll_groups trees rest)
end

end

mutual
/-- The groups in parts that are repeated no time. -/
def Tree.omitted : Tree → List Nat
  | .repetition _ count _ body => if count.most = some 0 then body.groups else body.omitted
  | .group _ _ body => body.omitted
  | .alternation _ trees | .concat _ trees => Tree.omittedAll trees
  | _ => []

def Tree.omittedAll : List Tree → List Nat
  | [] => []
  | tree :: trees => tree.omitted ++ Tree.omittedAll trees
end

section
variable [Engine]

mutual
/-- The groups of a tree are those that its meaning has, and those in parts that are repeated no time. -/
theorem Tree.lower_omitted {flags after : Flags} {e : Expr} : (t : Tree) → t.groups.Nodup →
    t.lower flags = .ok (e, after) → (e.groups ++ t.omitted).Perm t.groups
  | .empty _, _, lowered | .flags _ _, _, lowered | .literal _, _, lowered | .dot _, _, lowered
  | .anchor _ _, _, lowered | .property _ _ _, _, lowered | .perl _ _ _, _, lowered
  | .bracket _ _ _, _, lowered => by
    have none := List.sublist_nil.mp (Tree.lower_groups _ lowered)
    rw [none]
    exact .refl _
  | .repetition _ count greedy body, own, lowered => by
    rw [Tree.groups] at own
    rw [Tree.lower] at lowered
    split at lowered
    · simp at lowered
    · next found =>
      simp only [Except.ok.injEq, Prod.mk.injEq] at lowered
      rw [← lowered.1, Tree.groups, Tree.omitted, Expr.repeated_keeps]
      split
      · exact .refl _
      · exact Tree.lower_omitted body own found
  | .group _ kind body, own, lowered => by
    rw [Tree.groups] at own
    rw [Tree.lower] at lowered
    split at lowered
    · simp at lowered
    · next found =>
      simp only [Except.ok.injEq, Prod.mk.injEq] at lowered
      rw [← lowered.1, Tree.groups, Tree.omitted, kind.wrap_groups, List.append_assoc]
      exact (Tree.lower_omitted body (List.nodup_append.mp own).2.1 found).append_left _
  | .alternation _ branches, own, lowered => by
    rw [Tree.groups] at own
    rw [Tree.lower] at lowered
    split at lowered
    · simp at lowered
    · next found =>
      simp only [Except.ok.injEq, Prod.mk.injEq] at lowered
      have apart := (Tree.lowerAll_groups branches found).nodup own
      rw [← lowered.1, Tree.groups, Tree.omitted, Expr.altAll_keeps apart]
      exact Tree.lowerAll_omitted branches own found
  | .concat _ parts, own, lowered => by
    rw [Tree.groups] at own
    rw [Tree.lower] at lowered
    split at lowered
    · simp at lowered
    · next found =>
      simp only [Except.ok.injEq, Prod.mk.injEq] at lowered
      rw [← lowered.1, Tree.groups, Tree.omitted, Expr.seqAll_groups]
      exact Tree.lowerAll_omitted parts own found

theorem Tree.lowerAll_omitted {flags after : Flags} {es : List Expr} : (trees : List Tree) →
    (Tree.groupsAll trees).Nodup → Tree.lowerAll flags trees = .ok (es, after) →
    (es.flatMap Expr.groups ++ Tree.omittedAll trees).Perm (Tree.groupsAll trees)
  | [], _, lowered => by
    simp only [Tree.lowerAll, Except.ok.injEq, Prod.mk.injEq] at lowered
    rw [← lowered.1]
    exact .refl _
  | tree :: trees, own, lowered => by
    rw [Tree.groupsAll] at own
    obtain ⟨ownFirst, ownRest, -⟩ := List.nodup_append.mp own
    rw [Tree.lowerAll] at lowered
    split at lowered
    · simp at lowered
    · next first =>
      split at lowered
      · simp at lowered
      · next rest =>
        simp only [Except.ok.injEq, Prod.mk.injEq] at lowered
        have both := (Tree.lower_omitted tree ownFirst first).append (Tree.lowerAll_omitted trees ownRest rest)
        rw [← lowered.1, List.flatMap_cons, Tree.groupsAll, Tree.omittedAll, List.append_assoc]
        rw [List.append_assoc] at both
        exact ((List.perm_append_comm_assoc _ _ _).append_left _).trans both
end

end

end Lexicon.Regex

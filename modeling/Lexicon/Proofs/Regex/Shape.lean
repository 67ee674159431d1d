import Lexicon.Regex.Lowering
import Lexicon.Proofs.Regex.Nesting
import Lexicon.Proofs.Regex.Relocation

/-! The shape of a tree: what is left of it without the stretches that its parts were read from. A tree means what
its shape means, and renumbered groups stay renumbered in the meaning. -/
namespace Lexicon.Regex

namespace Expr
variable {number : Nat → Nat}

theorem renumber_injective (injective : Function.Injective number) :
    Function.Injective (renumber number) := by
  intro a b same
  induction a generalizing b with
  | empty => cases b <;> simp_all [renumber]
  | chars | look => cases b <;> simp_all [renumber]
  | seq a₁ a₂ ih₁ ih₂ | alt a₁ a₂ ih₁ ih₂ =>
    cases b with
    | seq b₁ b₂ | alt b₁ b₂ =>
      simp only [renumber, seq.injEq, alt.injEq, reduceCtorEq] at same
      try rw [ih₁ same.1, ih₂ same.2]
    | _ => simp [renumber] at same
  | loop least most greedy body ih =>
    cases b with
    | loop =>
      simp only [renumber, loop.injEq] at same
      obtain ⟨rfl, rfl, rfl, inner⟩ := same
      rw [ih inner]
    | _ => simp [renumber] at same
  | capture index body ih =>
    cases b with
    | capture =>
      simp only [renumber, capture.injEq] at same
      rw [injective same.1, ih same.2]
    | _ => simp [renumber] at same

@[simp] theorem isZeroWidth_renumber (e : Expr) : (e.renumber number).isZeroWidth = e.isZeroWidth := by
  induction e with
  | empty | chars | look => rfl
  | seq a b iha ihb | alt a b iha ihb => simp only [renumber, isZeroWidth, iha, ihb]
  | loop least most greedy body ih | capture index body ih => simp only [renumber, isZeroWidth, ih]

@[simp] theorem isSingle_renumber (e : Expr) : (e.renumber number).isSingle = e.isSingle := by
  cases e <;> rfl

@[simp] theorem isClass_renumber (e : Expr) : (e.renumber number).isClass = e.isClass := by
  cases e <;> rfl

@[simp] theorem charSet_renumber (e : Expr) : (e.renumber number).charSet = e.charSet := by
  cases e <;> rfl

theorem branches_renumber (e : Expr) : (e.renumber number).branches = e.branches.map (renumber number) := by
  induction e with
  | alt a b iha ihb => simp only [renumber, branches, List.map_append, iha, ihb]
  | _ => rfl

theorem parts_renumber (e : Expr) : (e.renumber number).parts = e.parts.map (renumber number) := by
  induction e with
  | seq a b iha ihb => simp only [renumber, parts, List.map_append, iha, ihb]
  | _ => rfl

theorem chain_renumber (es : List Expr) : chain (es.map (renumber number)) = (chain es).renumber number := by
  induction es with
  | nil => rfl
  | cons e es ih =>
    cases es with
    | nil => rfl
    | cons next es => simpa only [List.map_cons, chain, renumber, seq.injEq, true_and] using ih

theorem seqAll_renumber (es : List Expr) :
    seqAll (es.map (renumber number)) = (seqAll es).renumber number := by
  rw [seqAll, seqAll, ← chain_renumber, List.map_flatMap, List.flatMap_map]
  simp only [parts_renumber]

theorem choice_renumber (es : List Expr) :
    choice (es.map (renumber number)) = (choice es).renumber number := by
  induction es with
  | nil => rfl
  | cons e es ih =>
    cases es with
    | nil => rfl
    | cons next es => simpa only [List.map_cons, choice, renumber, alt.injEq, true_and] using ih

theorem gather_renumber (es : List Expr) :
    gather (es.map (renumber number)) = (gather es).map (List.map (renumber number)) := by
  induction es with
  | nil => rfl
  | cons e es ih =>
    simp only [List.map_cons, gather, ih]
    cases gather es with
    | nil => rfl
    | cons run runs =>
      simp only [List.map_cons, isSingle_renumber, List.all_map, Function.comp_def]
      split <;> rfl

theorem commonStart_renumber (injective : Function.Injective number) (as bs : List (List Expr)) :
    commonStart (as.map (List.map (renumber number))) (bs.map (List.map (renumber number))) =
      (commonStart as bs).map (List.map (renumber number)) := by
  induction as generalizing bs with
  | nil => rfl
  | cons a as ih =>
    cases bs with
    | nil => rfl
    | cons b bs =>
      have same : a.map (renumber number) = b.map (renumber number) ↔ a = b :=
        List.map_inj_right fun _ _ equal => renumber_injective injective equal
      simp only [List.map_cons, commonStart, same, ih]
      split <;> rfl

theorem sharedStart_renumber (injective : Function.Injective number) (sequences : List (List (List Expr))) :
    sharedStart (sequences.map (List.map (List.map (renumber number)))) =
      (sharedStart sequences).map (List.map (renumber number)) := by
  induction sequences with
  | nil => rfl
  | cons runs rest ih =>
    cases rest with
    | nil => rfl
    | cons next rest =>
      simp only [List.map_cons, sharedStart] at ih ⊢
      rw [ih, commonStart_renumber injective]

theorem flatten_renumber (es : List Expr) :
    (es.map (renumber number)).flatMap branches = (es.flatMap branches).map (renumber number) := by
  rw [List.flatMap_map, List.map_flatMap]
  simp only [branches_renumber]

theorem join_renumber (es : List Expr) : join (es.map (renumber number)) = (join es).renumber number := by
  simp only [join, List.length_map, List.all_map, List.map_map, Function.comp_def, isSingle_renumber,
    isClass_renumber, charSet_renumber, choice_renumber]
  split <;> rfl

theorem altAll_renumber (injective : Function.Injective number) (es : List Expr) :
    altAll (es.map (renumber number)) = (altAll es).renumber number := by
  have sequences (es : List Expr) : (es.map (renumber number)).map (fun e => gather e.parts) =
      (es.map fun e => gather e.parts).map (List.map (List.map (renumber number))) := by
    simp only [List.map_map, Function.comp_def, parts_renumber, gather_renumber]
  simp only [altAll, flatten_renumber, sequences, sharedStart_renumber injective, List.length_map, ne_eq,
    List.map_eq_nil_iff, List.all_map, Function.comp_def, join_renumber]
  split
  · rw [← chain_renumber, List.map_append, List.map_singleton, ← join_renumber, List.map_flatten, ← flatten_renumber]
    simp only [List.map_map, Function.comp_def, ← chain_renumber, List.map_flatten, List.map_drop]
  · rfl

theorem repeated_renumber (least : Nat) (most : Option Nat) (greedy : Bool) (e : Expr) :
    repeated least most greedy (e.renumber number) = (repeated least most greedy e).renumber number := by
  simp only [repeated, isZeroWidth_renumber]
  repeat' split
  all_goals rfl

end Expr

def FlagItems.shape (items : FlagItems) : FlagItems := items.map fun item => (.point 0, item.2)

def Literal.shape (l : Literal) : Literal := { l with span := .point 0 }

mutual
def ClassTree.shape : ClassTree → ClassTree
  | .empty _ => .empty (.point 0)
  | .literal l => .literal l.shape
  | .range _ first last => .range (.point 0) first.shape last.shape
  | .posix _ negated name => .posix (.point 0) negated name
  | .property _ negated query => .property (.point 0) negated query
  | .perl _ negated name => .perl (.point 0) negated name
  | .bracket _ negated body => .bracket (.point 0) negated body.shape
  | .union _ items => .union (.point 0) (ClassTree.shapeAll items)
  | .operation _ op left right => .operation (.point 0) op left.shape right.shape

def ClassTree.shapeAll : List ClassTree → List ClassTree
  | [] => []
  | item :: items => item.shape :: ClassTree.shapeAll items
end

def GroupKind.shape (number : Nat → Nat) : GroupKind → GroupKind
  | .capture index => .capture (number index)
  | .named index name => .named (number index) name
  | .plain items => .plain items.shape

mutual
/-- The tree without its stretches, and with its groups renumbered. -/
def Tree.shape (number : Nat → Nat) : Tree → Tree
  | .empty _ => .empty (.point 0)
  | .flags _ items => .flags (.point 0) items.shape
  | .literal l => .literal l.shape
  | .dot _ => .dot (.point 0)
  | .anchor _ a => .anchor (.point 0) a
  | .property _ negated query => .property (.point 0) negated query
  | .perl _ negated name => .perl (.point 0) negated name
  | .bracket _ negated body => .bracket (.point 0) negated body.shape
  | .repetition _ count greedy body => .repetition (.point 0) count greedy (body.shape number)
  | .group _ kind body => .group (.point 0) (kind.shape number) (body.shape number)
  | .alternation _ branches => .alternation (.point 0) (Tree.shapeAll number branches)
  | .concat _ parts => .concat (.point 0) (Tree.shapeAll number parts)

def Tree.shapeAll (number : Nat → Nat) : List Tree → List Tree
  | [] => []
  | tree :: trees => tree.shape number :: Tree.shapeAll number trees
end

theorem ClassTree.shapeAll_eq (items : List ClassTree) : ClassTree.shapeAll items = items.map ClassTree.shape := by
  induction items with
  | nil => rfl
  | cons item items ih => rw [ClassTree.shapeAll, ih, List.map_cons]

theorem Tree.shapeAll_eq (number : Nat → Nat) (trees : List Tree) :
    Tree.shapeAll number trees = trees.map (Tree.shape number) := by
  induction trees with
  | nil => rfl
  | cons tree trees ih => rw [Tree.shapeAll, ih, List.map_cons]

@[simp] theorem FlagItems.setting_shape (items : FlagItems) (flag : Flag) :
    items.shape.setting flag = items.setting flag := by
  have each (negated : Bool) : setting.go flag negated items.shape = setting.go flag negated items := by
    induction items generalizing negated with
    | nil => rfl
    | cons entry items ih =>
      obtain ⟨span, item⟩ := entry
      cases item with
      | negation => exact ih true
      | flag f =>
        simp only [FlagItems.shape, List.map_cons, setting.go] at ih ⊢
        rw [ih negated]
  exact each false

@[simp] theorem Flags.update_shape (flags : Flags) (items : FlagItems) :
    flags.update items.shape = flags.update items := by
  simp only [Flags.update, FlagItems.setting_shape]

@[simp] theorem GroupKind.inner_shape (flags : Flags) (number : Nat → Nat) (kind : GroupKind) :
    (kind.shape number).inner flags = kind.inner flags := by
  cases kind with
  | plain items => exact Flags.update_shape flags items
  | _ => rfl

theorem GroupKind.wrap_shape (number : Nat → Nat) (kind : GroupKind) (e : Expr) :
    (kind.shape number).wrap (e.renumber number) = (kind.wrap e).renumber number := by
  cases kind <;> rfl

mutual
theorem ClassTree.nesting_shape : (t : ClassTree) → t.shape.nesting = t.nesting
  | .empty _ | .literal _ | .range _ _ _ | .posix _ _ _ | .property _ _ _ | .perl _ _ _ => rfl
  | .bracket _ _ body => congrArg (· + 1) (ClassTree.nesting_shape body)
  | .union _ items => congrArg (· + 1) (ClassTree.nestingAll_shape items)
  | .operation _ _ left right => by
    simp only [ClassTree.shape, ClassTree.nesting, ClassTree.nesting_shape left, ClassTree.nesting_shape right]

theorem ClassTree.nestingAll_shape : (items : List ClassTree) →
    ClassTree.nestingAll (ClassTree.shapeAll items) = ClassTree.nestingAll items
  | [] => rfl
  | item :: items => by
    simp only [ClassTree.shapeAll, ClassTree.nestingAll, ClassTree.nesting_shape item, ClassTree.nestingAll_shape items]
end

mutual
theorem Tree.nesting_shape (number : Nat → Nat) : (t : Tree) → (t.shape number).nesting = t.nesting
  | .empty _ | .flags _ _ | .literal _ | .dot _ | .anchor _ _ | .property _ _ _ | .perl _ _ _ => rfl
  | .bracket _ _ body => congrArg (· + 1) (ClassTree.nesting_shape body)
  | .repetition _ _ _ body | .group _ _ body => congrArg (· + 1) (Tree.nesting_shape number body)
  | .alternation _ trees | .concat _ trees => congrArg (· + 1) (Tree.nestingAll_shape number trees)

theorem Tree.nestingAll_shape (number : Nat → Nat) : (trees : List Tree) →
    Tree.nestingAll (Tree.shapeAll number trees) = Tree.nestingAll trees
  | [] => rfl
  | tree :: trees => by
    simp only [Tree.shapeAll, Tree.nestingAll, Tree.nesting_shape number tree, Tree.nestingAll_shape number trees]
end

/-- Trees of the same shape nest to the same depth. -/
theorem Tree.nesting_like {number other : Nat → Nat} {tree body : Tree} (alike : tree.shape number = body.shape other) :
    tree.nesting = body.nesting := by
  rw [← tree.nesting_shape number, alike, nesting_shape]

/-- Two outcomes are the same but for what is said about a fault. -/
def Alike {α : Type} (a b : Except Diagnostic α) : Prop := a.toOption = b.toOption

namespace Alike
variable {α β : Type} {a b : Except Diagnostic α}

theorem cases (alike : Alike a b) :
    (∃ e e', a = .error e ∧ b = .error e') ∨ ∃ x, a = .ok x ∧ b = .ok x := by
  cases a <;> cases b <;> simp_all [Alike, Except.toOption]

theorem map (alike : Alike a b) (f : α → β) : Alike (a.map f) (b.map f) := by
  rcases alike.cases with ⟨e, e', rfl, rfl⟩ | ⟨x, rfl, rfl⟩ <;> rfl

theorem of_map {f : α → α} (alike : Alike a (b.map f)) :
    (∃ e e', a = .error e ∧ b = .error e') ∨ ∃ x, a = .ok (f x) ∧ b = .ok x := by
  cases b with
  | error e =>
    rcases alike.cases with ⟨e', -, failed, -⟩ | ⟨x, -, none⟩
    · exact .inl ⟨e', e, failed, rfl⟩
    · simp [Except.map] at none
  | ok x =>
    rcases alike.cases with ⟨-, e', -, none⟩ | ⟨y, found, same⟩
    · simp [Except.map] at none
    · cases same
      exact .inr ⟨x, found, rfl⟩

end Alike

section
variable (flags : Flags)

theorem negate_alike (a b : Span) (negated : Bool) (set : CharSet) :
    Alike (negate flags a negated set) (negate flags b negated set) := by
  unfold Alike negate
  split <;> rfl

theorem Literal.inClass_alike (l : Literal) : Alike (l.shape.inClass flags) (l.inClass flags) := by
  by_cases fits : (flags.unicode || decide (l.char.toNat < 128)) = true
  · have shaped : (flags.unicode || decide (l.shape.char.toNat < 128)) = true := fits
    simp only [Literal.inClass, fits, shaped, if_true]
    rfl
  · have shaped : ¬(flags.unicode || decide (l.shape.char.toNat < 128)) = true := fits
    simp only [Literal.inClass, fits, shaped]
    cases byte : l.byte <;> simp [Literal.shape, byte, Alike, Except.toOption]

theorem Literal.lower_alike (l : Literal) : Alike (l.shape.lower flags) (l.lower flags) := by
  by_cases foreign : (!flags.unicode && l.byte && decide (128 ≤ l.char.toNat)) = true
  · have shaped : (!flags.unicode && l.shape.byte && decide (128 ≤ l.shape.char.toNat)) = true := foreign
    simp only [Literal.lower, foreign, shaped, if_true]
    rfl
  · have shaped : ¬(!flags.unicode && l.shape.byte && decide (128 ≤ l.shape.char.toNat)) = true := foreign
    simp only [Literal.lower, foreign, shaped]
    rfl

variable [Engine]

theorem propertySet_alike (a b : Span) (negated : Bool) (query : PropertyQuery) :
    Alike (propertySet flags a negated query) (propertySet flags b negated query) := by
  unfold propertySet
  split
  · apply Alike.map
    simp only [PropertyQuery.lookup]
    split <;> rfl
  · rfl

mutual
theorem ClassTree.lower_alike : (t : ClassTree) → Alike (t.shape.lower flags) (t.lower flags)
  | .empty _ => rfl
  | .literal l => (l.inClass_alike flags).map _
  | .range _ first last => by
    simp only [ClassTree.shape, ClassTree.lower]
    rcases (first.inClass_alike flags).cases with ⟨e, e', left, left'⟩ | ⟨low, left, left'⟩
    · rw [left, left']
      rfl
    · rcases (last.inClass_alike flags).cases with ⟨e, e', right, right'⟩ | ⟨high, right, right'⟩ <;>
        rw [left, left', right, right'] <;> rfl
  | .posix _ negated name => negate_alike flags _ _ negated _
  | .property _ negated query => propertySet_alike flags _ _ negated query
  | .perl _ negated name => negate_alike flags _ _ negated _
  | .bracket span negated body => by
    simp only [ClassTree.shape, ClassTree.lower]
    rcases (ClassTree.lower_alike body).cases with ⟨e, e', inner, inner'⟩ | ⟨set, inner, inner'⟩
    · rw [inner, inner']
      rfl
    · rw [inner, inner']
      exact negate_alike flags _ _ negated _
  | .union _ items => ClassTree.lowerAll_alike items
  | .operation _ op first second => by
    simp only [ClassTree.shape, ClassTree.lower]
    rcases (ClassTree.lower_alike first).cases with ⟨e, e', left, left'⟩ | ⟨a, left, left'⟩
    · rw [left, left']
      rfl
    · rcases (ClassTree.lower_alike second).cases with ⟨e, e', right, right'⟩ | ⟨b, right, right'⟩ <;>
        rw [left, left', right, right'] <;> rfl

theorem ClassTree.lowerAll_alike :
    (items : List ClassTree) →
      Alike (ClassTree.lowerAll flags (ClassTree.shapeAll items)) (ClassTree.lowerAll flags items)
  | [] => rfl
  | item :: items => by
    simp only [ClassTree.shapeAll, ClassTree.lowerAll]
    rcases (ClassTree.lower_alike item).cases with ⟨e, e', first, first'⟩ | ⟨a, first, first'⟩
    · rw [first, first']
      rfl
    · rcases (ClassTree.lowerAll_alike items).cases with ⟨e, e', rest, rest'⟩ | ⟨b, rest, rest'⟩ <;>
        rw [first, first', rest, rest'] <;> rfl
end

end

/-- What a renumbered tree means: the renumbered meaning, with the same flags behind it. -/
def renumbered (number : Nat → Nat) (meaning : Expr × Flags) : Expr × Flags :=
  (meaning.1.renumber number, meaning.2)

/-- What renumbered trees mean one after the other. -/
def renumberedAll (number : Nat → Nat) (meaning : List Expr × Flags) : List Expr × Flags :=
  (meaning.1.map (Expr.renumber number), meaning.2)

section
variable {number : Nat → Nat}

/-- A set of characters has no groups to renumber. -/
theorem chars_renumbered {a b : Except Diagnostic CharSet} (alike : Alike a b) (flags : Flags) :
    Alike (a.map fun set => (Expr.ofSet flags.unicode set, flags))
      ((b.map fun set => (Expr.ofSet flags.unicode set, flags)).map (renumbered number)) := by
  rcases alike.cases with ⟨e, e', rfl, rfl⟩ | ⟨set, rfl, rfl⟩ <;> rfl

variable [Engine]

mutual
theorem Tree.lower_shape (injective : Function.Injective number) (flags : Flags) :
    (t : Tree) → Alike ((t.shape number).lower flags) ((t.lower flags).map (renumbered number))
  | .empty _ => rfl
  | .flags _ items => by
    simp only [Tree.shape, Tree.lower, Flags.update_shape]
    rfl
  | .literal l => by
    simp only [Tree.shape, Tree.lower]
    rcases (l.lower_alike flags).cases with ⟨e, e', own, own'⟩ | ⟨x, own, own'⟩
    · rw [own, own']
      rfl
    · rw [own, own']
      rw [Literal.lower] at own'
      split at own'
      · simp at own'
      · cases own'
        rfl
  | .dot span => by
    simp only [Tree.shape, Tree.lower, Regex.dot, Alike]
    split
    · rfl
    · split
      · rfl
      · split <;> rfl
  | .anchor _ a => rfl
  | .property _ negated query => chars_renumbered (propertySet_alike flags _ _ negated query) flags
  | .perl _ negated name => chars_renumbered (negate_alike flags _ _ negated _) flags
  | .bracket _ negated body => by
    simp only [Tree.shape, Tree.lower]
    rcases (ClassTree.lower_alike flags body).cases with ⟨e, e', inner, inner'⟩ | ⟨set, inner, inner'⟩
    · rw [inner, inner']
      rfl
    · rw [inner, inner']
      exact chars_renumbered (negate_alike flags _ _ negated _) flags
  | .repetition _ count greedy body => by
    have inner := Tree.lower_shape injective flags body
    simp only [Tree.shape, Tree.lower]
    rcases inner.of_map with ⟨e, e', shaped, lowered⟩ | ⟨meaning, shaped, lowered⟩
    · rw [shaped, lowered]
      rfl
    · rw [shaped, lowered, renumbered]
      simp only [Expr.repeated_renumber]
      rfl
  | .group _ kind body => by
    have inner := Tree.lower_shape injective (kind.inner flags) body
    simp only [Tree.shape, Tree.lower, GroupKind.inner_shape]
    rcases inner.of_map with ⟨e, e', shaped, lowered⟩ | ⟨meaning, shaped, lowered⟩
    · rw [shaped, lowered]
      rfl
    · rw [shaped, lowered, renumbered]
      simp only [GroupKind.wrap_shape]
      rfl
  | .alternation _ branches => by
    have inner := Tree.lowerAll_shape injective flags branches
    simp only [Tree.shape, Tree.lower]
    rcases inner.of_map with ⟨e, e', shaped, lowered⟩ | ⟨meaning, shaped, lowered⟩
    · rw [shaped, lowered]
      rfl
    · rw [shaped, lowered, renumberedAll]
      simp only [Expr.altAll_renumber injective]
      rfl
  | .concat _ parts => by
    have inner := Tree.lowerAll_shape injective flags parts
    simp only [Tree.shape, Tree.lower]
    rcases inner.of_map with ⟨e, e', shaped, lowered⟩ | ⟨meaning, shaped, lowered⟩
    · rw [shaped, lowered]
      rfl
    · rw [shaped, lowered, renumberedAll]
      simp only [Expr.seqAll_renumber]
      rfl

theorem Tree.lowerAll_shape (injective : Function.Injective number) (flags : Flags) :
    (trees : List Tree) → Alike (Tree.lowerAll flags (Tree.shapeAll number trees))
      ((Tree.lowerAll flags trees).map (renumberedAll number))
  | [] => rfl
  | tree :: trees => by
    have first := Tree.lower_shape injective flags tree
    simp only [Tree.shapeAll, Tree.lowerAll]
    rcases first.of_map with ⟨e, e', shaped, lowered⟩ | ⟨meaning, shaped, lowered⟩
    · rw [shaped, lowered]
      rfl
    · rw [shaped, lowered, renumbered]
      simp only
      rcases (Tree.lowerAll_shape injective meaning.2 trees).of_map with
        ⟨e, e', rest, others⟩ | ⟨meanings, rest, others⟩ <;>
      · rw [rest, others]
        rfl
end

end
end Lexicon.Regex

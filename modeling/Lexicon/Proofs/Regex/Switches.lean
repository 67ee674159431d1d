import Lexicon.Regex

/-! What the switches have to do with whether a pattern means something: with Unicode it does if it does without, and
the other switches make no difference. -/
namespace Lexicon.Regex

/-- Where the first flags hold with Unicode, so do the second. -/
def Flags.Below (f g : Flags) : Prop := f.unicode = true → g.unicode = true

theorem Flags.below_initial (f : Flags) : f.Below .initial := fun _ => rfl

variable {f g : Flags}

theorem Flags.Below.update (below : f.Below g) (items : FlagItems) : (f.update items).Below (g.update items) := by
  simp only [Flags.Below, Flags.update]
  cases items.setting .unicode with
  | none => exact below
  | some set => exact id

theorem Flags.Below.inner (below : f.Below g) (kind : GroupKind) : (kind.inner f).Below (kind.inner g) := by
  cases kind with
  | capture | named => exact below
  | plain items => exact below.update items

theorem negate_below (below : f.Below g) {span : Span} {negated : Bool} {set other result : CharSet}
    (given : negate f span negated set = .ok result) : ∃ result', negate g span negated other = .ok result' := by
  unfold negate at given ⊢
  split at given
  · simp at given
  · next possible =>
    rw [if_neg]
    · exact ⟨_, rfl⟩
    · cases negated
      · simp
      · have unicode : f.unicode = true := by simpa using possible
        simp [below unicode]

theorem Literal.inClass_below (below : f.Below g) {l : Literal} {c : Char} (given : l.inClass f = .ok c) :
    l.inClass g = .ok c := by
  unfold Literal.inClass at given ⊢
  split at given
  · next allowed =>
    rw [if_pos]
    · exact given
    · simp only [Bool.or_eq_true] at allowed ⊢
      exact allowed.imp_left below
  · split at given <;> simp at given

theorem Literal.lower_below (below : f.Below g) {l : Literal} {e : Expr} (given : l.lower f = .ok e) :
    ∃ e', l.lower g = .ok e' := by
  unfold Literal.lower at given ⊢
  split at given
  · simp at given
  · next allowed =>
    rw [if_neg]
    · exact ⟨_, rfl⟩
    · simp only [Bool.and_eq_true, Bool.not_eq_true', not_and] at allowed ⊢
      intro ascii
      apply allowed
      refine ⟨Bool.eq_false_iff.mpr fun unicode => ?_, ascii.2⟩
      simp [below unicode] at ascii

theorem dot_below (below : f.Below g) {span : Span} {e : Expr} (given : dot f span = .ok e) :
    ∃ e', dot g span = .ok e' := by
  unfold dot at given ⊢
  split at given
  · simp at given
  · next unicode =>
    have allowed : ¬(!g.unicode) = true := by
      simp only [Bool.not_eq_true', Bool.not_eq_false] at unicode ⊢
      exact below unicode
    rw [if_neg allowed]
    split
    · exact ⟨_, rfl⟩
    · split <;> exact ⟨_, rfl⟩

/-- A part that leaves the flags as they are means something again, if its own meaning is there again. -/
theorem leaf_below {α : Type} (below : f.Below g) {own again : Except Diagnostic α} {wrap wrap' : α → Expr} {e : Expr}
    {after : Flags} (given : own.map (fun x => (wrap x, f)) = .ok (e, after))
    (still : ∀ x, own = .ok x → ∃ y, again = .ok y) :
    ∃ e' after', again.map (fun x => (wrap' x, g)) = .ok (e', after') ∧ after.Below after' := by
  cases found : own with
  | error e => simp [found, Except.map] at given
  | ok x =>
    obtain ⟨y, there⟩ := still x found
    simp only [found, Except.map, Except.ok.injEq, Prod.mk.injEq] at given
    obtain ⟨-, rfl⟩ := given
    exact ⟨_, g, by rw [there]; rfl, below⟩

variable [Engine]

theorem propertySet_below (below : f.Below g) {span : Span} {negated : Bool} {query : PropertyQuery} {result : CharSet}
    (given : propertySet f span negated query = .ok result) :
    ∃ result', propertySet g span negated query = .ok result' := by
  unfold propertySet at given ⊢
  split at given
  · next unicode =>
    rw [if_pos (below unicode)]
    cases found : query.lookup span with
    | error e => simp [found, Except.map] at given
    | ok set => exact ⟨_, rfl⟩
  · simp at given

mutual
theorem ClassTree.lower_below (below : f.Below g) : (t : ClassTree) → {set : CharSet} → t.lower f = .ok set →
    ∃ set', t.lower g = .ok set'
  | .empty _, _, _ => ⟨_, rfl⟩
  | .literal l, _, given => by
    cases found : l.inClass f with
    | error e => simp [ClassTree.lower, found, Except.map] at given
    | ok c => simp [ClassTree.lower, l.inClass_below below found, Except.map]
  | .range _ first last, _, given => by
    cases low : first.inClass f with
    | error e => simp [ClassTree.lower, low] at given
    | ok a =>
      cases high : last.inClass f with
      | error e => simp [ClassTree.lower, low, high] at given
      | ok b => simp [ClassTree.lower, first.inClass_below below low, last.inClass_below below high]
  | .posix _ _ _, _, given => negate_below below given
  | .property _ _ _, _, given => propertySet_below below given
  | .perl _ _ _, _, given => negate_below below given
  | .bracket _ _ body, _, given => by
    cases inner : body.lower f with
    | error e => simp [ClassTree.lower, inner] at given
    | ok set =>
      obtain ⟨set', inner'⟩ := ClassTree.lower_below below body inner
      simp only [ClassTree.lower, inner] at given
      simp only [ClassTree.lower, inner']
      exact negate_below below given
  | .union _ items, _, given => ClassTree.lowerAll_below below items given
  | .operation _ _ first second, _, given => by
    cases left : first.lower f with
    | error e => simp [ClassTree.lower, left] at given
    | ok a =>
      cases right : second.lower f with
      | error e => simp [ClassTree.lower, left, right] at given
      | ok b =>
        obtain ⟨a', left'⟩ := ClassTree.lower_below below first left
        obtain ⟨b', right'⟩ := ClassTree.lower_below below second right
        simp [ClassTree.lower, left', right']

theorem ClassTree.lowerAll_below (below : f.Below g) : (items : List ClassTree) → {set : CharSet} →
    ClassTree.lowerAll f items = .ok set → ∃ set', ClassTree.lowerAll g items = .ok set'
  | [], _, _ => ⟨_, rfl⟩
  | item :: items, _, given => by
    cases first : item.lower f with
    | error e => simp [ClassTree.lowerAll, first] at given
    | ok a =>
      cases rest : ClassTree.lowerAll f items with
      | error e => simp [ClassTree.lowerAll, first, rest] at given
      | ok b =>
        obtain ⟨a', first'⟩ := ClassTree.lower_below below item first
        obtain ⟨b', rest'⟩ := ClassTree.lowerAll_below below items rest
        simp [ClassTree.lowerAll, first', rest']
end

mutual
-- The flags behind a part are those in front of the next, so that they are compared along with the meanings.
theorem Tree.lower_below {f g : Flags} (below : f.Below g) : (t : Tree) → {e : Expr} → {after : Flags} →
    t.lower f = .ok (e, after) → ∃ e' after', t.lower g = .ok (e', after') ∧ after.Below after'
  | .empty _, _, _, given => by
    cases given
    exact ⟨_, _, rfl, below⟩
  | .flags _ items, _, _, given => by
    cases given
    exact ⟨_, _, rfl, below.update items⟩
  | .literal l, _, _, given => leaf_below below given fun _ => l.lower_below below
  | .dot _, _, _, given => leaf_below below given fun _ => dot_below below
  | .anchor _ _, _, _, given => by
    cases given
    exact ⟨_, _, rfl, below⟩
  | .property _ _ _, _, _, given => leaf_below below given fun _ => propertySet_below below
  | .perl _ _ _, _, _, given => leaf_below below given fun _ => negate_below below
  | .bracket _ _ body, _, _, given => by
    cases inner : body.lower f with
    | error e => simp [Tree.lower, inner] at given
    | ok set =>
      obtain ⟨set', inner'⟩ := body.lower_below below inner
      simp only [Tree.lower, inner] at given
      simp only [Tree.lower, inner']
      exact leaf_below below given fun _ => negate_below below
  | .repetition _ _ _ body, _, _, given => by
    cases inner : body.lower f with
    | error e => simp [Tree.lower, inner] at given
    | ok meaning =>
      obtain ⟨e', after', inner', onward⟩ := Tree.lower_below below body inner
      simp only [Tree.lower, inner] at given
      cases given
      simp only [Tree.lower, inner']
      exact ⟨_, _, rfl, onward⟩
  | .group _ kind body, _, _, given => by
    cases inner : body.lower (kind.inner f) with
    | error e => simp [Tree.lower, inner] at given
    | ok meaning =>
      obtain ⟨e', after', inner', -⟩ := Tree.lower_below (below.inner kind) body inner
      simp only [Tree.lower, inner] at given
      cases given
      simp only [Tree.lower, inner']
      exact ⟨_, _, rfl, below⟩
  | .alternation _ trees, _, _, given => by
    cases inner : Tree.lowerAll f trees with
    | error e => simp [Tree.lower, inner] at given
    | ok meaning =>
      obtain ⟨es', after', inner', onward⟩ := Tree.lowerAll_below below trees inner
      simp only [Tree.lower, inner] at given
      cases given
      simp only [Tree.lower, inner']
      exact ⟨_, _, rfl, onward⟩
  | .concat _ trees, _, _, given => by
    cases inner : Tree.lowerAll f trees with
    | error e => simp [Tree.lower, inner] at given
    | ok meaning =>
      obtain ⟨es', after', inner', onward⟩ := Tree.lowerAll_below below trees inner
      simp only [Tree.lower, inner] at given
      cases given
      simp only [Tree.lower, inner']
      exact ⟨_, _, rfl, onward⟩

theorem Tree.lowerAll_below {f g : Flags} (below : f.Below g) : (trees : List Tree) → {es : List Expr} →
    {after : Flags} → Tree.lowerAll f trees = .ok (es, after) →
      ∃ es' after', Tree.lowerAll g trees = .ok (es', after') ∧ after.Below after'
  | [], _, _, given => by
    cases given
    exact ⟨_, _, rfl, below⟩
  | tree :: trees, _, _, given => by
    cases first : tree.lower f with
    | error e => simp [Tree.lowerAll, first] at given
    | ok meaning =>
      obtain ⟨e', between', first', onward⟩ := Tree.lower_below below tree first
      cases rest : Tree.lowerAll meaning.2 trees with
      | error e => simp [Tree.lowerAll, first, rest] at given
      | ok meanings =>
        obtain ⟨es', after', rest', last⟩ := Tree.lowerAll_below onward trees rest
        simp only [Tree.lowerAll, first, rest] at given
        cases given
        simp only [Tree.lowerAll, first', rest']
        exact ⟨_, _, rfl, last⟩
end

/-- A pattern that compiles with some switches, verbose mode not among them, can be read and means something without
them. -/
theorem compileWith_ok {flags : Flags} {source : String} {re : Regex}
    (compiled : compileWith ⟨flags, false⟩ source = .ok re) : re.source = source ∧ ∃ reading expr after,
      read false source.toList = .ok reading ∧ reading.tree.lower .initial = .ok (expr, after) := by
  unfold compileWith parse at compiled
  simp only at compiled
  cases found : read false source.toList with
  | error e => simp [found] at compiled
  | ok reading =>
    cases lowered : reading.tree.lower flags with
    | error e => simp [found, lowered, Except.map] at compiled
    | ok meaning =>
      simp only [found, lowered, Except.map] at compiled
      split at compiled
      · simp at compiled
      · cases compiled
        obtain ⟨expr, after, again, -⟩ := Tree.lower_below flags.below_initial reading.tree lowered
        exact ⟨rfl, reading, expr, after, rfl, again⟩

end Lexicon.Regex

import Mathlib.Data.List.Forall2
import Lexicon.RuleSet.Registry

/-! Rules become definitions one by one, in their order, up to the first rule that is at fault. The fault and the
definitions made so far depend on the rules up to that one only, and not on those behind it or on the definitions that
were there before. -/
namespace Lexicon

variable [Regex.Engine]

namespace PatternSpec
variable {p : PatternSpec} {pattern : Pattern} {index : Nat} {e : ApplyError}

/-- Exactly one of the two is set, and if that is the expression, it compiles. -/
def Usable (p : PatternSpec) : Prop :=
  p.regex.isSome ≠ p.literal.isSome ∧ ∀ source, p.regex = some source → ∃ re, Regex.compile source = .ok re

/-- What a pattern is made of: the expression or the text that is set, while the other is not. -/
inductive Means : PatternSpec → Pattern → Prop where
  | regex {source : String} {re : Regex} (compiled : Regex.compile source = .ok re) :
      Means ⟨some source, none⟩ (.regex re)
  | literal (text : String) : Means ⟨none, some text⟩ (.literal text)

/-- How the fault of the rule at an index is reported. Where both are set, it does not matter whether the expression
compiles. -/
inductive Faulty (index : Nat) : PatternSpec → ApplyError → Prop where
  | both (source text : String) : Faulty index ⟨some source, some text⟩ (.ambiguous index)
  | neither : Faulty index ⟨none, none⟩ (.ambiguous index)
  | uncompiled {source : String} {error : Regex.Error} (failed : Regex.compile source = .error error) :
      Faulty index ⟨some source, none⟩ (.invalidPattern ⟨source, error⟩)

theorem Means.toPattern (means : p.Means pattern) : p.toPattern index = .ok pattern := by
  cases means with
  | regex compiled => simp only [PatternSpec.toPattern, Pattern.ofRegex, PatternError.guard, compiled, Except.map]
  | literal => rfl

theorem Faulty.toPattern (faulty : p.Faulty index e) : p.toPattern index = .error e := by
  cases faulty with
  | both | neither => rfl
  | uncompiled failed => simp only [PatternSpec.toPattern, Pattern.ofRegex, PatternError.guard, failed, Except.map]

theorem exists_means (usable : p.Usable) : ∃ pattern, p.Means pattern := by
  obtain ⟨one, compiles⟩ := usable
  obtain ⟨_ | source, _ | text⟩ := p
  · exact absurd rfl one
  · exact ⟨_, .literal text⟩
  · obtain ⟨re, compiled⟩ := compiles source rfl
    exact ⟨_, .regex compiled⟩
  · exact absurd rfl one

theorem exists_faulty (index : Nat) (unusable : ¬p.Usable) : ∃ e, p.Faulty index e := by
  obtain ⟨_ | source, _ | text⟩ := p
  · exact ⟨_, .neither⟩
  · exact absurd ⟨nofun, nofun⟩ unusable
  · cases compiled : Regex.compile source with
    | error error => exact ⟨_, .uncompiled compiled⟩
    | ok re => exact absurd ⟨nofun, by rintro _ ⟨⟩; exact ⟨re, compiled⟩⟩ unusable
  · exact ⟨_, .both source text⟩

end PatternSpec

variable {σ ν : Type}

/-- The definition that a rule stands for: its role, with its kind, and its pattern. -/
inductive Rule.Defines : Rule → Definition σ String ν → Prop where
  | token (kind : String) {p : PatternSpec} {pattern : Pattern} (means : p.Means pattern) :
      Defines (.token kind p) ⟨pattern, .token kind⟩
  | skip {p : PatternSpec} {pattern : Pattern} (means : p.Means pattern) : Defines (.skip p) ⟨pattern, .skip⟩

namespace Rule
variable {rule : Rule} {index : Nat}

theorem Defines.toDefinition {d : Definition σ String ν} (defines : rule.Defines d) :
    rule.toDefinition index = .ok d := by
  cases defines with
  | token _ means | skip means => simp only [Rule.toDefinition, Rule.pattern, means.toPattern, Except.map, Rule.role]

theorem toDefinition_faulty {e : ApplyError} (faulty : rule.pattern.Faulty index e) :
    (rule.toDefinition index : Except ApplyError (Definition σ String ν)) = .error e := by
  rw [toDefinition, faulty.toPattern, Except.map]

theorem exists_defines (usable : rule.pattern.Usable) : ∃ d : Definition σ String ν, rule.Defines d := by
  obtain ⟨pattern, means⟩ := PatternSpec.exists_means usable
  cases rule with
  | token kind => exact ⟨_, .token kind means⟩
  | skip => exact ⟨_, .skip means⟩

end Rule

theorem Registry.build_empty_iff {new : List (Definition σ String ν)} : build new = .error .empty ↔ new = [] := by
  unfold build
  split
  · next empty => simpa using empty
  · next nonempty =>
    have some : new ≠ [] := by simpa using nonempty
    cases PatternError.guard (sourceOf new) (Regex.compile (sourceOf new)) with
    | error e => simp [some]
    | ok matcher => simp [some]

namespace RuleSet

theorem exists_definitions {rules : List Rule} (usable : ∀ rule ∈ rules, rule.pattern.Usable) :
    ∃ new : List (Definition σ String ν), List.Forall₂ Rule.Defines rules new := by
  induction rules with
  | nil => exact ⟨[], .nil⟩
  | cons rule rest ih =>
    obtain ⟨here, further⟩ := List.forall_mem_cons.mp usable
    obtain ⟨d, defines⟩ := Rule.exists_defines here
    obtain ⟨new, defined⟩ := ih further
    exact ⟨d :: new, .cons defines defined⟩

/-- Rules that stand for definitions add them in order, and the rules behind them go on from there. -/
theorem applyFrom_defined {good : List Rule} {new : List (Definition σ String ν)}
    (defined : List.Forall₂ Rule.Defines good new) (index : Nat) (old : List (Definition σ String ν))
    (rest : List Rule) :
    applyFrom index old (good ++ rest) = applyFrom (index + good.length) (old ++ new) rest := by
  -- The place of the next rule and the definitions so far grow together with each rule.
  induction defined generalizing index old with
  | nil => rw [List.nil_append, List.length_nil, Nat.add_zero, List.append_nil]
  | cons defines _ ih =>
    rw [List.cons_append, applyFrom, defines.toDefinition]
    simp only
    rw [ih, List.length_cons, List.append_assoc, List.singleton_append, Nat.add_assoc, Nat.add_comm 1]

theorem apply_defined {rs : RuleSet} {new : List (Definition σ String ν)}
    (defined : List.Forall₂ Rule.Defines rs.rules new) (old : List (Definition σ String ν)) :
    rs.apply old = (none, old ++ new) := by
  have applied := applyFrom_defined defined 0 old []
  rwa [List.append_nil, applyFrom] at applied

/-- A rule at fault ends it. The rules behind it are not looked at. -/
theorem apply_faulty {rs : RuleSet} {good later : List Rule} {bad : Rule} {e : ApplyError}
    {new : List (Definition σ String ν)} (split : rs.rules = good ++ bad :: later)
    (defined : List.Forall₂ Rule.Defines good new) (faulty : bad.pattern.Faulty good.length e)
    (old : List (Definition σ String ν)) : rs.apply old = (some e, old ++ new) := by
  rw [apply, split, applyFrom_defined defined, Nat.zero_add, applyFrom, Rule.toDefinition_faulty faulty]

/-- Either all rules can be used, or there is a first one that can not. -/
theorem usable_or_first (rules : List Rule) : (∀ rule ∈ rules, rule.pattern.Usable) ∨
    ∃ good bad later, rules = good ++ bad :: later ∧ (∀ rule ∈ good, rule.pattern.Usable) ∧ ¬bad.pattern.Usable := by
  classical
  cases found : rules.find? (fun rule => ¬rule.pattern.Usable) with
  | none => exact .inl (by simpa using found)
  | some bad =>
    obtain ⟨unusable, good, later, split, usable⟩ := List.find?_eq_some_iff_append.mp found
    exact .inr ⟨good, bad, later, split, by simpa using usable, by simpa using unusable⟩

theorem toRegistry_defined {rs : RuleSet} {new : List (Definition σ String ν)}
    (defined : List.Forall₂ Rule.Defines rs.rules new) :
    rs.toRegistry = (Registry.build new).mapError .build := by
  rw [toRegistry, apply_defined defined, List.nil_append]
  cases built : Registry.build new <;> simp only [built, Except.mapError]

theorem toRegistry_faulty {rs : RuleSet} {good later : List Rule} {bad : Rule} {e : ApplyError}
    {new : List (Definition σ String ν)} (split : rs.rules = good ++ bad :: later)
    (defined : List.Forall₂ Rule.Defines good new) (faulty : bad.pattern.Faulty good.length e) :
    (rs.toRegistry : Except RegistryError (Registry σ String ν)) = .error (.rule e) := by
  rw [toRegistry, apply_faulty split defined faulty]

/-- Only for no rules at all is it reported that there are no definitions. -/
theorem toRegistry_empty_iff (rs : RuleSet) :
    (rs.toRegistry : Except RegistryError (Registry σ String ν)) = .error (.build .empty) ↔ rs.rules = [] := by
  rcases usable_or_first rs.rules with usable | ⟨good, bad, later, split, usable, unusable⟩
  · obtain ⟨new, defined⟩ : ∃ new : List (Definition σ String ν), List.Forall₂ Rule.Defines rs.rules new :=
      exists_definitions usable
    have reported : (Registry.build new).mapError RegistryError.build = .error (.build .empty) ↔
        Registry.build new = .error .empty := by
      cases Registry.build new <;> simp [Except.mapError]
    rw [toRegistry_defined defined, reported, Registry.build_empty_iff, ← List.length_eq_zero_iff,
      ← defined.length_eq, List.length_eq_zero_iff]
  · obtain ⟨new, defined⟩ : ∃ new : List (Definition σ String ν), List.Forall₂ Rule.Defines good new :=
      exists_definitions usable
    obtain ⟨e, faulty⟩ := PatternSpec.exists_faulty good.length unusable
    rw [toRegistry_faulty split defined faulty, split]
    simp

/-- Rules are applied in order, up to the first that is at fault, whatever definitions there are already. If all rules
set exactly one of the two and all expressions compile, the definitions that they stand for are added, and the registry
of the rules is what building those definitions gives. Otherwise the first rule for which this does not hold is
reported, by its place among the rules or by the error of its expression, whatever the rules behind it are, and the
definitions of exactly the rules in front of it are added; the registry fails with the same error. That there are no
definitions is reported exactly if there are no rules. -/
theorem apply_exact (rs : RuleSet) (old : List (Definition σ String ν)) :
    ((∀ rule ∈ rs.rules, rule.pattern.Usable) → ∃ new, List.Forall₂ Rule.Defines rs.rules new ∧
      rs.apply old = (none, old ++ new) ∧ rs.toRegistry = (Registry.build new).mapError .build) ∧
    (∀ good bad later, rs.rules = good ++ bad :: later → (∀ rule ∈ good, rule.pattern.Usable) → ¬bad.pattern.Usable →
      ∃ e new, bad.pattern.Faulty good.length e ∧ List.Forall₂ Rule.Defines good new ∧
        rs.apply old = (some e, old ++ new) ∧
        (rs.toRegistry : Except RegistryError (Registry σ String ν)) = .error (.rule e)) ∧
    ((rs.toRegistry : Except RegistryError (Registry σ String ν)) = .error (.build .empty) ↔ rs.rules = []) := by
  refine ⟨fun usable => ?_, fun good bad later split usable unusable => ?_, toRegistry_empty_iff rs⟩
  · obtain ⟨new, defined⟩ : ∃ new : List (Definition σ String ν), List.Forall₂ Rule.Defines rs.rules new :=
      exists_definitions usable
    exact ⟨new, defined, apply_defined defined old, toRegistry_defined defined⟩
  · obtain ⟨new, defined⟩ : ∃ new : List (Definition σ String ν), List.Forall₂ Rule.Defines good new :=
      exists_definitions usable
    obtain ⟨e, faulty⟩ := PatternSpec.exists_faulty good.length unusable
    exact ⟨e, new, faulty, defined, apply_faulty split defined faulty old, toRegistry_faulty split defined faulty⟩

end RuleSet
end Lexicon

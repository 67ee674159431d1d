import Lexicon.Json.Tape
import Lexicon.Registry

/-! Rules: definitions as data. A rule names a kind of token, or is for text to skip, and says what to
match in one of two ways. -/
namespace Lexicon

/-- What a rule matches; exactly one of the two has to be set. -/
structure PatternSpec where
  regex : Option String
  literal : Option String
  deriving DecidableEq, Repr

inductive Rule where
  | token (kind : String) (pattern : PatternSpec)
  | skip (pattern : PatternSpec)
  deriving DecidableEq, Repr

structure RuleSet where
  rules : List Rule
  deriving DecidableEq, Repr

/-- Why rules do not make definitions. -/
inductive ApplyError where
  | ambiguous (index : Nat)
  | invalidPattern (error : PatternError)
  deriving DecidableEq, Repr

namespace ApplyError

def message : ApplyError → String
  | ambiguous index => "rule " ++ toString index ++ " must set exactly one of 'regex' or 'literal'"
  | invalidPattern e => e.message

end ApplyError

namespace PatternSpec

def outline (p : PatternSpec) : Outline :=
  .record "PatternSpec" [
    .field "regex" (.ofOption (p.regex.map .ofText)),
    .field "literal" (.ofOption (p.literal.map .ofText))]

/-- The pattern of the rule at `index`. -/
def toPattern [Regex.Engine] (index : Nat) : PatternSpec → Except ApplyError Pattern
  | ⟨some regex, none⟩ =>
    match Pattern.ofRegex regex with
    | .error e => .error (.invalidPattern e)
    | .ok p => .ok p
  | ⟨none, some literal⟩ => .ok (.literal literal)
  | _ => .error (.ambiguous index)

end PatternSpec

namespace Rule

def outline : Rule → Outline
  | token kind pattern =>
    .record "Token" [.field "kind" (.ofText kind), .field "pattern" pattern.outline]
  | skip pattern => .record "Skip" [.field "pattern" pattern.outline]

def pattern : Rule → PatternSpec
  | token _ pattern | skip pattern => pattern

def role {σ ν : Type} : Rule → Role σ String ν
  | token kind _ => .token kind
  | skip _ => .skip

def toDefinition [Regex.Engine] {σ ν : Type} (index : Nat) (rule : Rule) :
    Except ApplyError (Definition σ String ν) :=
  (rule.pattern.toPattern index).map fun p => ⟨p, rule.role⟩

end Rule

namespace RuleSet
variable {σ ν : Type}

def outline (rs : RuleSet) : Outline :=
  .record "RuleSet" [.field "rules" (.list (rs.rules.map Rule.outline))]

/-- Adds rules to definitions one by one, the first of them at `index`, up to the first bad one. The
definitions so far are given back in any case. -/
def applyFrom [Regex.Engine] (index : Nat) (definitions : List (Definition σ String ν)) :
    List Rule → Option ApplyError × List (Definition σ String ν)
  | [] => (none, definitions)
  | rule :: rest =>
    match rule.toDefinition index with
    | .error e => (some e, definitions)
    | .ok d => applyFrom (index + 1) (definitions ++ [d]) rest

def apply [Regex.Engine] (rs : RuleSet) (definitions : List (Definition σ String ν)) :
    Option ApplyError × List (Definition σ String ν) :=
  applyFrom 0 definitions rs.rules

end RuleSet
end Lexicon

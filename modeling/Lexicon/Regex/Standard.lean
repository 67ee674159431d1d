import Lexicon.Regex.Engine

/-! An engine to run with. It knows the categories and the scripts but only some of the other properties, and
it estimates sizes. -/
namespace Lexicon.Regex
open Lexicon.Unicode (Property LookupError)

/-- Roughly how many bytes a compiled set takes: a character by itself is as many states as it has bytes,
ranges of ASCII share one state, and other ranges have states of their own. -/
def CharSet.weight (set : CharSet) : Nat :=
  let ranges := (stretches set.edges).length
  if set.isSingle then 32 * (charAt (set.edges.headD 0)).utf8Size
  else if set.edges.all (· ≤ 128) then 32 + 8 * ranges
  else 32 + 60 * ranges

namespace Expr

/-- How many bytes one more branch takes in front of an expression: further branches share a list. -/
def branchWeight : Expr → Nat
  | alt _ _ => 4
  | _ => 72

/-- Roughly how many bytes the compiled expression takes. -/
def weight : Expr → Nat
  | empty => 0
  | look _ => 32
  | chars set _ => set.weight
  | seq a b => a.weight + b.weight
  | alt a b => a.weight + b.weight + b.branchWeight
  | capture _ body => body.weight + 64
  | loop least none _ body => max 1 least * body.weight + 72
  | loop least (some most) _ body => least * body.weight + (most - least) * (body.weight + 40) + 32

end Expr

def PropertyQuery.property : PropertyQuery → Except LookupError Property
  | .name text => (Property.ofName? text).elim (.error .unknownName) .ok
  | .value property text => Property.ofNameAndValue property text

instance Engine.standard : Engine where
  property query := query.property.map fun property => .ofTest property.contains
  weight := Expr.weight

end Lexicon.Regex

import Lexicon.Regex.Expr

/-! What patterns leave to the engine that compiles them. Its tables of characters and its measure of
programs are its own; the rest of what a pattern means does not depend on them. -/
namespace Lexicon.Regex

/-- The engine that compiles patterns: the sets of characters that it knows by name, and the number of bytes
that an expression takes once it is compiled. -/
class Engine where
  property : PropertyQuery → Except Unicode.LookupError CharSet
  weight : Expr → Nat

end Lexicon.Regex

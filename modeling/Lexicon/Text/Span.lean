/-! Half-open stretches of a text. -/
namespace Lexicon

structure Span where
  start : Nat
  stop : Nat
  deriving DecidableEq, Repr, Inhabited

namespace Span

/-- The empty stretch at one offset. -/
def point (offset : Nat) : Span := ⟨offset, offset⟩

/-- The stretch of one character. -/
def single (offset : Nat) : Span := ⟨offset, offset + 1⟩

def text (span : Span) : String :=
  toString span.start ++ ".." ++ toString span.stop

/-- Stretches are sorted by where they start, then by where they stop. -/
def precedes (a b : Span) : Bool :=
  a.start < b.start || (a.start == b.start && a.stop ≤ b.stop)

end Span
end Lexicon

/-! Sorted tables of numbers, searched by halving. -/
namespace Lexicon.Unicode

/-- Narrows `[low, high]` to the number of entries of a sorted table that are at most `key`; each
step halves the interval. -/
def narrow (table : Array Nat) (key : Nat) : (steps low high : Nat) → Nat
  | 0, low, _ => low
  | steps + 1, low, high =>
    if low < high then
      let middle := (low + high) / 2
      if table.getD middle 0 ≤ key then narrow table key steps (middle + 1) high
      else narrow table key steps low middle
    else low

/-- How many entries of a sorted table are at most `key`. -/
def rank (table : Array Nat) (key : Nat) : Nat :=
  narrow table key (table.size.log2 + 1) 0 table.size

/-- The mark of the run that holds a code point, where an entry of `runs` is the first code point of
a run times 256 plus its mark. -/
def runMark (runs : Array Nat) (codePoint : Nat) : Nat :=
  runs.getD (rank runs (codePoint * 256 + 255) - 1) 0 % 256

/-- A set given by its edges: a code point is inside iff an odd number of edges is at most it. -/
def insideEdges (edges : Array Nat) (codePoint : Nat) : Bool :=
  rank edges codePoint % 2 == 1

end Lexicon.Unicode

import Lexicon.Unicode.FoldTable
import Lexicon.Unicode.SortedTable

/-! Letters that differ only in case. They form cycles of at most four letters. -/
namespace Lexicon.Unicode

/-- The next letter of the character's cycle; the character itself if it has no other case. -/
def foldSuccessor (c : Char) : Char :=
  let entry := foldSuccessors.getD (rank foldSuccessors (c.toNat * 0x1000000 + 0xFFFFFF) - 1) 0
  if entry / 0x1000000 == c.toNat then Char.ofNat (entry % 0x1000000) else c

/-- The other letters of the character's cycle. -/
def otherCases (c : Char) : List Char :=
  let second := foldSuccessor c
  let third := foldSuccessor second
  let fourth := foldSuccessor third
  [second, third, fourth].filter (· ≠ c)

/-- The letters with another case among the code points from `low` to before `high`. -/
def casedBetween (low high : Nat) : List Char :=
  let first := rank foldSuccessors (low * 0x1000000)
  let past := rank foldSuccessors (high * 0x1000000)
  (List.range' first (past - first)).map fun i => Char.ofNat (foldSuccessors.getD i 0 / 0x1000000)

end Lexicon.Unicode

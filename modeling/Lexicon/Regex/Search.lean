import Lexicon.Regex.Program

/-! Leftmost-first search. Threads are tried in the order of preference, each to its end; an
instruction is entered at most once at each place of the text, because a second visit could only
repeat what the first one has tried or is trying. -/
namespace Lexicon.Regex

/-- A way into the text: the next instruction, the characters on both sides, how many characters were
taken, and the groups that took part so far. -/
structure Thread where
  address : Nat
  before : Option Char
  rest : List Char
  taken : Nat
  groups : List Nat
  deriving Repr

namespace Thread

/-- The ways onward after an instruction, in the order of preference. -/
def follow (t : Thread) : Instr → List Thread
  | .jump next => [{ t with address := next }]
  | .split first second => [{ t with address := first }, { t with address := second }]
  | .mark group next => [{ t with address := next, groups := group :: t.groups }]
  | .look l next => if l.holds t.before t.rest.head? then [{ t with address := next }] else []
  | .chars set next =>
    match t.rest with
    | [] => []
    | c :: rest =>
      if set.contains c then
        [{ t with address := next, before := some c, rest, taken := t.taken + 1 }]
      else []
  | .accept => []

end Thread

/-- The addresses that were entered after each number of characters, as the bits of a number. -/
abbrev Visited := Array Nat

namespace Visited

def contains (v : Visited) (t : Thread) : Bool := (v.getD t.taken 0).testBit t.address

def insert (v : Visited) (t : Thread) : Visited := v.modify t.taken (· ||| 1 <<< t.address)

end Visited

/-- Follows the first of the waiting threads until one accepts. -/
def explore (program : Array Instr) : (steps : Nat) → List Thread → Visited → Option Thread
  | 0, _, _ => none
  | _, [], _ => none
  | steps + 1, t :: waiting, visited =>
    if visited.contains t then explore program steps waiting visited
    else match program[t.address]? with
      | none => explore program steps waiting visited
      | some .accept => some t
      | some instr => explore program steps (t.follow instr ++ waiting) (visited.insert t)

/-- The first match that starts here. An instruction is entered at most once at each place and adds at
most two threads, which bounds the number of steps. -/
def matchHere (program : Array Instr) (before : Option Char) (rest : List Char) : Option Thread :=
  let places := rest.length + 1
  explore program (2 * program.size * places + 2) [⟨0, before, rest, 0, []⟩]
    (Array.replicate places 0)

/-- A match: where it starts and how long it is, in characters, and the groups that took part. -/
structure Match where
  start : Nat
  length : Nat
  groups : List Nat
  deriving DecidableEq, Repr

/-- Where the groups of a match are kept, to be asked for behind it. One store serves many searches. -/
structure Locations where
  groups : List Nat
  deriving DecidableEq, Repr

namespace Locations

def empty : Locations := ⟨[]⟩

/-- Writes the outcome of a search over what the store held; where nothing matches, no group takes part. -/
def record (l : Locations) : Option Match → Locations
  | none => { l with groups := [] }
  | some m => { l with groups := m.groups }

/-- Whether a group took part in the match that was written last. -/
def contains (l : Locations) (group : Nat) : Bool := l.groups.contains group

end Locations

/-- The first match in a text, of those that start earliest; `anchored` programs can only match at
the start. -/
def search (program : Array Instr) (anchored : Bool) (before : Option Char) (start : Nat)
    (rest : List Char) : Option Match :=
  match matchHere program before rest with
  | some t => some ⟨start, t.taken, t.groups⟩
  | none =>
    match rest with
    | [] => none
    | c :: more => if anchored then none else search program anchored (some c) (start + 1) more

end Lexicon.Regex

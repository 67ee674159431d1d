import Lexicon.Regex.Tree
import Lexicon.Unicode.CaseFolding
import Lexicon.Unicode.Property

/-! Sets of characters. A set is kept as the places where its members begin and where they end, by turns
and in increasing order, so that sets with the same members are equal. -/
namespace Lexicon.Regex

/-- How many characters there are. -/
def charCount : Nat := 0x10F800

/-- How many characters come before a code point: there are none at the surrogates. -/
def placeOf (codePoint : Nat) : Nat :=
  if codePoint < 0xD800 then codePoint else max 0xD800 (codePoint - 0x800)

/-- The code point of the character at a place. -/
def codePointAt (place : Nat) : Nat := if place < 0xD800 then place else place + 0x800

def charAt (place : Nat) : Char := Char.ofNat (codePointAt place)

structure CharSet where
  edges : List Nat
  increasing : edges.Pairwise (· < ·)
  bounded : ∀ edge ∈ edges, edge < charCount
  deriving DecidableEq, Repr

namespace CharSet

/-- A place is inside if the number of edges up to it is odd. -/
def inside : (edges : List Nat) → (place : Nat) → Bool
  | [], _ => false
  | edge :: edges, place => edge ≤ place && !inside edges place

def contains (set : CharSet) (c : Char) : Bool := inside set.edges (placeOf c.toNat)

/-! ### Sets by sampling -/

/-- Puts a place where it belongs among others, unless it is there. -/
def insertPlace (place : Nat) : List Nat → List Nat
  | [] => [place]
  | other :: places =>
    if place < other then place :: other :: places
    else if place = other then other :: places
    else other :: insertPlace place places

/-- The places in order, and the first place of all. -/
def inOrder (places : List Nat) : List Nat := (places.filter (· < charCount)).foldr insertPlace [0]

/-- Those of the places where a test does not give what it gave before. -/
def changes (test : Nat → Bool) : (before : Bool) → (places : List Nat) → List Nat
  | _, [] => []
  | before, place :: places =>
    if test place = before then changes test before places
    else place :: changes test (!before) places

theorem mem_insertPlace {place other : Nat} {places : List Nat} :
    other ∈ insertPlace place places ↔ other = place ∨ other ∈ places := by
  induction places with
  | nil => simp [insertPlace]
  | cons next places ih =>
    simp only [insertPlace]
    split
    · simp
    · split
      · next same => simp [same]
      · simp only [List.mem_cons, ih, or_left_comm]

theorem insertPlace_increasing {place : Nat} {places : List Nat} (increasing : places.Pairwise (· < ·)) :
    (insertPlace place places).Pairwise (· < ·) := by
  induction places with
  | nil => simp [insertPlace]
  | cons next places ih =>
    obtain ⟨first, rest⟩ := List.pairwise_cons.mp increasing
    simp only [insertPlace]
    split
    · next before =>
      refine List.pairwise_cons.mpr ⟨fun other member => ?_, increasing⟩
      rcases List.mem_cons.mp member with rfl | later
      · exact before
      · exact Nat.lt_trans before (first other later)
    · split
      · exact increasing
      · refine List.pairwise_cons.mpr ⟨fun other member => ?_, ih rest⟩
        rcases mem_insertPlace.mp member with rfl | later
        · omega
        · exact first other later

theorem mem_inOrder {places : List Nat} {place : Nat} :
    place ∈ inOrder places ↔ place = 0 ∨ (place ∈ places ∧ place < charCount) := by
  rw [inOrder]
  induction places with
  | nil => simp
  | cons next places ih =>
    by_cases bounded : next < charCount
    · rw [List.filter_cons_of_pos (by simpa using bounded), List.foldr_cons, mem_insertPlace, ih, List.mem_cons,
        or_left_comm, or_and_right, and_iff_left_of_imp (fun same : place = next => same ▸ bounded)]
    · rw [List.filter_cons_of_neg (by simpa using bounded), ih, List.mem_cons, or_and_right]
      have other : ¬(place = next ∧ place < charCount) := by
        rintro ⟨rfl, inside⟩
        exact bounded inside
      rw [or_iff_right other]

theorem inOrder_increasing (places : List Nat) : (inOrder places).Pairwise (· < ·) := by
  rw [inOrder]
  induction places.filter (· < charCount) with
  | nil => exact List.pairwise_singleton _ 0
  | cons place places ih => exact insertPlace_increasing ih

theorem changes_sublist (test : Nat → Bool) (before : Bool) (places : List Nat) :
    (changes test before places).Sublist places := by
  induction places generalizing before with
  | nil => exact List.Sublist.refl _
  | cons place places ih =>
    rw [changes]
    split
    · exact (ih before).cons place
    · exact (ih _).cons_cons place

/-- The set of the places that pass a test, which changes at none but the given places. -/
def sample (places : List Nat) (test : Nat → Bool) : CharSet where
  edges := changes test false (inOrder places)
  increasing := (inOrder_increasing places).sublist (changes_sublist test false _)
  bounded edge member := by
    rcases mem_inOrder.mp ((changes_sublist test false _).subset member) with rfl | ⟨-, bounded⟩
    · decide
    · exact bounded

/-! ### Operations -/

def empty : CharSet := ⟨[], .nil, nofun⟩

def range (first last : Char) : CharSet :=
  let (low, high) := (placeOf first.toNat, placeOf last.toNat)
  sample [low, high + 1] fun place => low ≤ place && place ≤ high

def single (c : Char) : CharSet := range c c

def combine (op : Bool → Bool → Bool) (a b : CharSet) : CharSet :=
  sample (a.edges ++ b.edges) fun place => op (inside a.edges place) (inside b.edges place)

def union : CharSet → CharSet → CharSet := combine (· || ·)

def ofOperation : ClassOp → CharSet → CharSet → CharSet
  | .intersection => combine (· && ·)
  | .difference => combine fun a b => a && !b
  | .symmetricDifference => combine (· != ·)

def complement (a : CharSet) : CharSet := sample a.edges fun place => !inside a.edges place

/-- A set with its complement taken if `negated`. -/
def negatedIf (negated : Bool) (set : CharSet) : CharSet :=
  if negated then complement set else set

def unionAll (sets : List CharSet) : CharSet := sets.foldr union empty

def ofRanges (ranges : List (Char × Char)) : CharSet :=
  unionAll (ranges.map fun (first, last) => range first last)

/-- The characters that pass a test. It may change where the tables of properties do. -/
def ofTest (test : Char → Bool) : CharSet :=
  sample (Unicode.turns.map placeOf) fun place => test (charAt place)

/-! ### Other cases -/

/-- The other case of an ASCII letter, and any other character itself. -/
def swapAsciiCase (c : Char) : Char :=
  if c.isUpper then c.toLower else c.toUpper

/-- The set with the other case of its ASCII letters. -/
def asciiFolded (a : CharSet) : CharSet :=
  sample (a.edges ++ List.range 129) fun place =>
    inside a.edges place || inside a.edges (placeOf (swapAsciiCase (charAt place)).toNat)

/-- The stretches between edges: where each begins, and the place behind it. -/
def stretches : (edges : List Nat) → List (Nat × Nat)
  | [] => []
  | [first] => [(first, charCount)]
  | first :: past :: edges => (first, past) :: stretches edges

/-- The other cases of the members. -/
def otherCases (a : CharSet) : List Char :=
  (stretches a.edges).flatMap fun (first, past) =>
    (Unicode.casedBetween (codePointAt first) (codePointAt past)).flatMap Unicode.otherCases

/-- The set with every other case of its members. -/
def folded (a : CharSet) : CharSet :=
  let others := a.otherCases.map fun c => placeOf c.toNat
  sample (a.edges ++ others.flatMap fun place => [place, place + 1]) fun place =>
    inside a.edges place || others.contains place

/-! ### Named sets -/

def ofPosix : PosixClass → CharSet
  | .alnum => ofRanges [('0', '9'), ('A', 'Z'), ('a', 'z')]
  | .alpha => ofRanges [('A', 'Z'), ('a', 'z')]
  | .ascii => ofRanges [('\x00', '\x7f')]
  | .blank => ofRanges [('\t', '\t'), (' ', ' ')]
  | .cntrl => ofRanges [('\x00', '\x1f'), ('\x7f', '\x7f')]
  | .digit => ofRanges [('0', '9')]
  | .graph => ofRanges [('!', '~')]
  | .lower => ofRanges [('a', 'z')]
  | .print => ofRanges [(' ', '~')]
  | .punct => ofRanges [('!', '/'), (':', '@'), ('[', '\x60'), ('\x7b', '~')]
  | .space => ofRanges [('\t', '\r'), (' ', ' ')]
  | .upper => ofRanges [('A', 'Z')]
  | .word => ofRanges [('0', '9'), ('A', 'Z'), ('_', '_'), ('a', 'z')]
  | .xdigit => ofRanges [('0', '9'), ('A', 'F'), ('a', 'f')]

/-- Digits, blanks and word characters of all scripts. -/
def ofPerl : PerlClass → CharSet
  | .digit => ofTest Unicode.isDecimal
  | .space => ofTest Unicode.isBlank
  | .word => ofTest Unicode.isWordChar

/-- Digits, blanks and word characters of ASCII. -/
def ofPerlAscii : PerlClass → CharSet
  | .digit => ofPosix .digit
  | .space => ofPosix .space
  | .word => ofPosix .word

/-- The set holds one character. -/
def isSingle (set : CharSet) : Bool :=
  match stretches set.edges with
  | [(first, past)] => past == first + 1
  | _ => false

end CharSet
end Lexicon.Regex

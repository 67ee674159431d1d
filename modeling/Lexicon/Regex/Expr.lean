import Lexicon.Regex.CharSet

/-! Regular expressions without their spelling: what a pattern means once its flags are applied. -/
namespace Lexicon.Regex

/-- What has to hold of the two sides of a place with respect to words. -/
inductive WordEdge where
  | boundary | notBoundary | start | stop | startHalf | stopHalf
  deriving DecidableEq, Repr

/-- A condition on a place. With `crlf` a carriage return ends a line too, and the place between it and
a line feed is inside the line's end; `unicode` says which characters make words. -/
inductive Look where
  | startText
  | endText
  | startLine (crlf : Bool)
  | endLine (crlf : Bool)
  | word (edge : WordEdge) (unicode : Bool)
  deriving DecidableEq, Repr

namespace Look

def isWordSide (unicode : Bool) (c : Option Char) : Bool :=
  c.any fun c => if unicode then Unicode.isWordChar c else c.isAlphanum || c == '_'

/-- Whether the condition holds between two neighbours; a missing one is an end of the text. -/
def holds (before after : Option Char) : Look → Bool
  | startText => before.isNone
  | endText => after.isNone
  | startLine false => before.isNone || before == some '\n'
  | startLine true =>
    before.isNone || before == some '\n' || (before == some '\r' && after != some '\n')
  | endLine false => after.isNone || after == some '\n'
  | endLine true =>
    after.isNone || after == some '\r' || (after == some '\n' && before != some '\r')
  | word edge unicode =>
    let left := isWordSide unicode before
    let right := isWordSide unicode after
    match edge with
    | .boundary => left != right
    | .notBoundary => left == right
    | .start => !left && right
    | .stop => left && !right
    | .startHalf => !left
    | .stopHalf => !right

end Look

inductive Expr where
  | empty
  /-- One character of a set. A set of several characters is not the same with and without `unicode`. -/
  | chars (set : CharSet) (unicode : Bool)
  | look (look : Look)
  | seq (first second : Expr)
  | alt (first second : Expr)
  /-- Between `least` and `most` times, as often as possible if `greedy`. -/
  | loop (least : Nat) (most : Option Nat) (greedy : Bool) (body : Expr)
  | capture (index : Nat) (body : Expr)
  deriving DecidableEq, Repr

namespace Expr

/-- One character of a set that is written with Unicode or without. -/
def ofSet (unicode : Bool) (set : CharSet) : Expr := chars set (unicode || set.isSingle || set.edges.isEmpty)

/-- Every match takes at least one character. -/
def consumes : Expr → Bool
  | empty | look _ => false
  | chars _ _ => true
  | seq a b => a.consumes || b.consumes
  | alt a b => a.consumes && b.consumes
  | loop least _ _ body => least != 0 && body.consumes
  | capture _ body => body.consumes

/-- No match takes a character. -/
def isZeroWidth : Expr → Bool
  | empty | look _ => true
  | chars _ _ => false
  | seq a b | alt a b => a.isZeroWidth && b.isZeroWidth
  | loop _ most _ body => most == some 0 || body.isZeroWidth
  | capture _ body => body.isZeroWidth

/-- Every match starts at the start of the text. -/
def isAnchored : Expr → Bool
  | look .startText => true
  | empty | look _ | chars _ _ => false
  | seq a b => a.isAnchored || (a.isZeroWidth && b.isAnchored)
  | alt a b => a.isAnchored && b.isAnchored
  | loop least _ _ body => least != 0 && body.isAnchored
  | capture _ body => body.isAnchored

/-- The highest number of a group. Groups with lower numbers may be missing. -/
def highestGroup : Expr → Nat
  | empty | look _ | chars _ _ => 0
  | seq a b | alt a b => max a.highestGroup b.highestGroup
  | loop _ _ _ body => body.highestGroup
  | capture index body => max index body.highestGroup

/-- The parts of a sequence, however it is nested. -/
def parts : Expr → List Expr
  | empty => []
  | seq a b => a.parts ++ b.parts
  | e => [e]

/-- Parts one after the other. -/
def chain : List Expr → Expr
  | [] => empty
  | [e] => e
  | e :: rest => seq e (chain rest)

def seqAll (es : List Expr) : Expr := chain (es.flatMap parts)

def isSingle : Expr → Bool
  | chars set _ => set.isSingle
  | _ => false

/-- A set of characters that does not hold just one. -/
def isClass : Expr → Bool
  | chars set _ => !set.isSingle
  | _ => false

/-- The parts with neighbouring single characters taken together. -/
def gather : List Expr → List (List Expr)
  | [] => []
  | e :: rest =>
    match gather rest with
    | [] => [[e]]
    | run :: runs =>
      if e.isSingle && run.all isSingle then (e :: run) :: runs else [e] :: run :: runs

/-- What both lists start with. -/
def commonStart : List (List Expr) → List (List Expr) → List (List Expr)
  | a :: as, b :: bs => if a = b then a :: commonStart as bs else []
  | _, _ => []

/-- What all lists start with. -/
def sharedStart : List (List (List Expr)) → List (List Expr)
  | [] => []
  | [runs] => runs
  | runs :: rest => commonStart runs (sharedStart rest)

/-- The branches of an alternation, however it is nested. -/
def branches : Expr → List Expr
  | alt a b => a.branches ++ b.branches
  | e => [e]

/-- Tries the branches in order; no branch at all never matches. -/
def choice : List Expr → Expr
  | [] => ofSet true .empty
  | [e] => e
  | e :: rest => alt e (choice rest)

/-- The characters that an expression matches, if it is a set of them. -/
def charSet : Expr → CharSet
  | chars set _ => set
  | _ => .empty

/-- Several branches that are all single characters, or all sets of others, are one set. -/
def join (es : List Expr) : Expr :=
  if 2 ≤ es.length ∧ (es.all isSingle ∨ es.all isClass) then ofSet true (.unionAll (es.map charSet))
  else choice es

/-- Tries the branches in order. If all are sequences that start alike, what they share is put in front:
the way that it takes is then preferred to the order of the branches. -/
def altAll (es : List Expr) : Expr :=
  let flat := es.flatMap branches
  let sequences := flat.map fun e => gather e.parts
  let shared := sharedStart sequences
  if 2 ≤ flat.length ∧ sequences.all (2 ≤ ·.length) ∧ shared ≠ [] then
    let rests := sequences.map fun runs => chain (runs.drop shared.length).flatten
    chain (shared.flatten ++ [join (rests.flatMap branches)])
  else join flat

/-- A repetition in its simplest form. What takes no character is not repeated more than once, and
what is repeated no time at all is nothing, its groups included. -/
def repeated (least : Nat) (most : Option Nat) (greedy : Bool) (body : Expr) : Expr :=
  let (least, most) :=
    if body.isZeroWidth then (min least 1, some (most.elim 1 (min · 1))) else (least, most)
  if most = some 0 then empty
  else if least = 1 ∧ most = some 1 then body
  else loop least most greedy body

end Expr
end Lexicon.Regex

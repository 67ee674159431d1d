import Lexicon.Text.Span

/-! The tree of a pattern as it is written. Each part keeps the stretch of the pattern that it was
read from, counted in characters. -/
namespace Lexicon.Regex

inductive Flag where
  | caseInsensitive | multiLine | dotMatchesNewLine | swapGreed | unicode | crlf | ignoreBlanks
  deriving DecidableEq, Repr

inductive FlagItem where
  | negation
  | flag (flag : Flag)
  deriving DecidableEq, Repr

/-- The flags of a group such as `(?i-s:…)`, in the order in which they are written. -/
abbrev FlagItems := List (Span × FlagItem)

/-- What the items say about a flag: switched on, switched off, or nothing. -/
def FlagItems.setting (items : FlagItems) (flag : Flag) : Option Bool :=
  go false items
where
  go (negated : Bool) : FlagItems → Option Bool
    | [] => none
    | (_, .negation) :: rest => go true rest
    | (_, .flag f) :: rest => if f = flag then some (!negated) else go negated rest

/-- A condition on a place between two characters. -/
inductive Anchor where
  | startLine | endLine | startText | endText
  | wordBoundary | notWordBoundary
  | wordStart | wordEnd | wordStartHalf | wordEndHalf
  deriving DecidableEq, Repr

inductive PerlClass where
  | digit | space | word
  deriving DecidableEq, Repr

/-- The classes that are written by name between `[:` and `:]`. -/
inductive PosixClass where
  | alnum | alpha | ascii | blank | cntrl | digit | graph | lower | print | punct | space | upper
  | word | xdigit
  deriving DecidableEq, Repr

def PosixClass.ofName? : String → Option PosixClass
  | "alnum" => some alnum
  | "alpha" => some alpha
  | "ascii" => some ascii
  | "blank" => some blank
  | "cntrl" => some cntrl
  | "digit" => some digit
  | "graph" => some graph
  | "lower" => some lower
  | "print" => some print
  | "punct" => some punct
  | "space" => some space
  | "upper" => some upper
  | "word" => some word
  | "xdigit" => some xdigit
  | _ => none

/-- What `\p` asks for: a name, or a property and its value. -/
inductive PropertyQuery where
  | name (name : String)
  | value (property value : String)
  deriving DecidableEq, Repr

/-- A character that stands for itself. `byte` marks the spelling with two digits after `\x`. -/
structure Literal where
  span : Span
  char : Char
  byte : Bool
  deriving DecidableEq, Repr

inductive ClassOp where
  | intersection | difference | symmetricDifference
  deriving DecidableEq, Repr

/-- What stands between `[` and `]`. -/
inductive ClassTree where
  | empty (span : Span)
  | literal (literal : Literal)
  | range (span : Span) (first last : Literal)
  | posix (span : Span) (negated : Bool) (name : PosixClass)
  | property (span : Span) (negated : Bool) (query : PropertyQuery)
  | perl (span : Span) (negated : Bool) (name : PerlClass)
  | bracket (span : Span) (negated : Bool) (body : ClassTree)
  | union (span : Span) (items : List ClassTree)
  | operation (span : Span) (op : ClassOp) (left right : ClassTree)
  deriving Repr

def ClassTree.span : ClassTree → Span
  | empty span | range span _ _ | posix span _ _ | property span _ _ | perl span _ _
  | bracket span _ _ | union span _ | operation span _ _ _ => span
  | literal l => l.span

inductive GroupKind where
  | capture (index : Nat)
  | named (index : Nat) (name : String)
  | plain (flags : FlagItems)
  deriving DecidableEq, Repr

/-- How often a part is repeated; no upper bound is `none`. -/
structure Count where
  least : Nat
  most : Option Nat
  deriving DecidableEq, Repr

inductive Tree where
  | empty (span : Span)
  | flags (span : Span) (items : FlagItems)
  | literal (literal : Literal)
  | dot (span : Span)
  | anchor (span : Span) (anchor : Anchor)
  | property (span : Span) (negated : Bool) (query : PropertyQuery)
  | perl (span : Span) (negated : Bool) (name : PerlClass)
  | bracket (span : Span) (negated : Bool) (body : ClassTree)
  | repetition (span : Span) (count : Count) (greedy : Bool) (body : Tree)
  | group (span : Span) (kind : GroupKind) (body : Tree)
  | alternation (span : Span) (branches : List Tree)
  | concat (span : Span) (parts : List Tree)
  deriving Repr

def Tree.span : Tree → Span
  | empty span | flags span _ | dot span | anchor span _ | property span _ _ | perl span _ _
  | bracket span _ _ | repetition span _ _ _ | group span _ _ | alternation span _
  | concat span _ => span
  | literal l => l.span

/-- A sequence of parts: nothing, the part itself, or a concatenation. -/
def Tree.ofParts (span : Span) : List Tree → Tree
  | [] => empty span
  | [part] => part
  | parts => concat span parts

/-- The members of a class: nothing, the member itself, or a union. -/
def ClassTree.ofItems (span : Span) : List ClassTree → ClassTree
  | [] => empty span
  | [item] => item
  | items => union span items

/-- How deep brackets, groups, repetitions and sequences may nest. -/
def nestingLimit : Nat := 250

mutual
/-- The first part, from left to right and from the outside in, that is nested too deeply. -/
def ClassTree.tooDeep (depth : Nat) : ClassTree → Option Span
  | .bracket span _ body =>
    if depth + 1 > nestingLimit then some span else body.tooDeep (depth + 1)
  | .union span items =>
    if depth + 1 > nestingLimit then some span else ClassTree.anyTooDeep (depth + 1) items
  | .operation span _ left right =>
    if depth + 1 > nestingLimit then some span
    else (left.tooDeep (depth + 1)).or (right.tooDeep (depth + 1))
  | _ => none

def ClassTree.anyTooDeep (depth : Nat) : List ClassTree → Option Span
  | [] => none
  | item :: items => (item.tooDeep depth).or (ClassTree.anyTooDeep depth items)
end

mutual
/-- The first part, from left to right and from the outside in, that is nested too deeply. -/
def Tree.tooDeep (depth : Nat) : Tree → Option Span
  | .bracket span _ body =>
    if depth + 1 > nestingLimit then some span else body.tooDeep (depth + 1)
  | .repetition span _ _ body =>
    if depth + 1 > nestingLimit then some span else body.tooDeep (depth + 1)
  | .group span _ body =>
    if depth + 1 > nestingLimit then some span else body.tooDeep (depth + 1)
  | .alternation span branches =>
    if depth + 1 > nestingLimit then some span else Tree.anyTooDeep (depth + 1) branches
  | .concat span parts =>
    if depth + 1 > nestingLimit then some span else Tree.anyTooDeep (depth + 1) parts
  | _ => none

def Tree.anyTooDeep (depth : Nat) : List Tree → Option Span
  | [] => none
  | tree :: trees => (tree.tooDeep depth).or (Tree.anyTooDeep depth trees)
end

end Lexicon.Regex

import Lexicon.Regex.Diagnostic
import Lexicon.Regex.Engine

/-! The meaning of a pattern's tree. Flags hold from where they are set to the end of the group. -/
namespace Lexicon.Regex

/-- The flags that hold at a place of the pattern. -/
structure Flags where
  caseInsensitive : Bool
  multiLine : Bool
  dotMatchesNewLine : Bool
  swapGreed : Bool
  unicode : Bool
  crlf : Bool
  deriving DecidableEq, Repr

namespace Flags

def initial : Flags := ⟨false, false, false, false, true, false⟩

def update (flags : Flags) (items : FlagItems) : Flags where
  caseInsensitive := (items.setting .caseInsensitive).getD flags.caseInsensitive
  multiLine := (items.setting .multiLine).getD flags.multiLine
  dotMatchesNewLine := (items.setting .dotMatchesNewLine).getD flags.dotMatchesNewLine
  swapGreed := (items.setting .swapGreed).getD flags.swapGreed
  unicode := (items.setting .unicode).getD flags.unicode
  crlf := (items.setting .crlf).getD flags.crlf

/-- A set with the other cases of its members, if case does not matter. -/
def fold (flags : Flags) (set : CharSet) : CharSet :=
  if flags.caseInsensitive then
    if flags.unicode then set.folded else set.asciiFolded
  else set

end Flags

/-- A set or its complement. Without Unicode a complement would hold single bytes. -/
def negate (flags : Flags) (span : Span) (negated : Bool) (set : CharSet) :
    Except Diagnostic CharSet :=
  if negated && !flags.unicode then .error (.single .invalidUtf8 span)
  else .ok (set.negatedIf negated)

section
variable [Engine]

def PropertyQuery.lookup (span : Span) (query : PropertyQuery) : Except Diagnostic CharSet :=
  match Engine.property query with
  | .ok set => .ok set
  | .error .unknownName => .error (.single .propertyNotFound span)
  | .error .unknownValue => .error (.single .propertyValueNotFound span)

/-- The set of a named class after `\p`. -/
def propertySet (flags : Flags) (span : Span) (negated : Bool) (query : PropertyQuery) :
    Except Diagnostic CharSet :=
  if flags.unicode then (query.lookup span).map fun set => (flags.fold set).negatedIf negated
  else .error (.single .unicodeNotAllowed span)

end

def perlSet (flags : Flags) (span : Span) (negated : Bool) (name : PerlClass) :
    Except Diagnostic CharSet :=
  negate flags span negated (if flags.unicode then .ofPerl name else .ofPerlAscii name)

/-- A character of a class. Without Unicode it has to be an ASCII character. -/
def Literal.inClass (flags : Flags) (l : Literal) : Except Diagnostic Char :=
  if flags.unicode || l.char.toNat < 128 then .ok l.char
  else if l.byte then .error (.single .invalidUtf8 l.span)
  else .error (.single .unicodeNotAllowed l.span)

mutual
/-- The set of a bracketed class. -/
def ClassTree.lower [Engine] (flags : Flags) : ClassTree → Except Diagnostic CharSet
  | .empty _ => .ok .empty
  | .literal l => (l.inClass flags).map .single
  | .range _ first last =>
    match first.inClass flags, last.inClass flags with
    | .error e, _ => .error e
    | _, .error e => .error e
    | .ok a, .ok b => .ok (.range a b)
  | .posix span negated name => negate flags span negated (flags.fold (.ofPosix name))
  | .property span negated query => propertySet flags span negated query
  | .perl span negated name => perlSet flags span negated name
  | .bracket span negated body =>
    match body.lower flags with
    | .error e => .error e
    | .ok set => negate flags span negated (flags.fold set)
  | .union _ items => ClassTree.lowerAll flags items
  | .operation _ op left right =>
    match left.lower flags, right.lower flags with
    | .error e, _ => .error e
    | _, .error e => .error e
    | .ok a, .ok b => .ok (.ofOperation op (flags.fold a) (flags.fold b))

def ClassTree.lowerAll [Engine] (flags : Flags) : List ClassTree → Except Diagnostic CharSet
  | [] => .ok .empty
  | item :: items =>
    match item.lower flags, ClassTree.lowerAll flags items with
    | .error e, _ => .error e
    | _, .error e => .error e
    | .ok a, .ok b => .ok (.union a b)
end

/-- A character outside of brackets. Without Unicode two digits after `\x` give a byte, which has to
be an ASCII character. -/
def Literal.lower (flags : Flags) (l : Literal) : Except Diagnostic Expr :=
  if !flags.unicode && l.byte && 128 ≤ l.char.toNat then .error (.single .invalidUtf8 l.span)
  else .ok (.ofSet flags.unicode (flags.fold (.single l.char)))

/-- Any character, or any that ends no line. -/
def dot (flags : Flags) (span : Span) : Except Diagnostic Expr :=
  if !flags.unicode then .error (.single .invalidUtf8 span)
  else if flags.dotMatchesNewLine then .ok (.ofSet true (.complement .empty))
  else if flags.crlf then .ok (.ofSet true (.complement (.ofRanges [('\r', '\r'), ('\n', '\n')])))
  else .ok (.ofSet true (.complement (.single '\n')))

def Anchor.lower (flags : Flags) : Anchor → Look
  | .startLine => if flags.multiLine then .startLine flags.crlf else .startText
  | .endLine => if flags.multiLine then .endLine flags.crlf else .endText
  | .startText => .startText
  | .endText => .endText
  | .wordBoundary => .word .boundary flags.unicode
  | .notWordBoundary => .word .notBoundary flags.unicode
  | .wordStart => .word .start flags.unicode
  | .wordEnd => .word .stop flags.unicode
  | .wordStartHalf => .word .startHalf flags.unicode
  | .wordEndHalf => .word .stopHalf flags.unicode

/-- The meaning of a group around `body`, and the flags inside of it. -/
def GroupKind.wrap : GroupKind → Expr → Expr
  | .capture index, body | .named index _, body => .capture index body
  | .plain _, body => body

def GroupKind.inner (flags : Flags) : GroupKind → Flags
  | .plain items => flags.update items
  | _ => flags

mutual
/-- The meaning of a tree, and the flags that hold behind it. -/
def Tree.lower [Engine] (flags : Flags) : Tree → Except Diagnostic (Expr × Flags)
  | .empty _ => .ok (.empty, flags)
  | .flags _ items => .ok (.empty, flags.update items)
  | .literal l => (l.lower flags).map (·, flags)
  | .dot span => (Regex.dot flags span).map (·, flags)
  | .anchor _ a => .ok (.look (a.lower flags), flags)
  | .property span negated query => (propertySet flags span negated query).map (.ofSet flags.unicode ·, flags)
  | .perl span negated name => (perlSet flags span negated name).map (.ofSet flags.unicode ·, flags)
  | .bracket span negated body =>
    match body.lower flags with
    | .error e => .error e
    | .ok set => (negate flags span negated (flags.fold set)).map (.ofSet flags.unicode ·, flags)
  | .repetition _ count greedy body =>
    match body.lower flags with
    | .error e => .error e
    | .ok (e, after) => .ok (.repeated count.least count.most (greedy != after.swapGreed) e, after)
  | .group _ kind body =>
    match body.lower (kind.inner flags) with
    | .error e => .error e
    | .ok (e, _) => .ok (kind.wrap e, flags)
  | .alternation _ branches =>
    match Tree.lowerAll flags branches with
    | .error e => .error e
    | .ok (es, after) => .ok (.altAll es, after)
  | .concat _ parts =>
    match Tree.lowerAll flags parts with
    | .error e => .error e
    | .ok (es, after) => .ok (.seqAll es, after)

/-- The meanings of trees one after the other; each sees the flags that the one before left. -/
def Tree.lowerAll [Engine] (flags : Flags) : List Tree → Except Diagnostic (List Expr × Flags)
  | [] => .ok ([], flags)
  | tree :: trees =>
    match tree.lower flags with
    | .error e => .error e
    | .ok (e, after) =>
      match Tree.lowerAll after trees with
      | .error e => .error e
      | .ok (es, last) => .ok (e :: es, last)
end

end Lexicon.Regex

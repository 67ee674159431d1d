import Lexicon.Regex.Diagnostic
import Lexicon.Regex.Tape
import Lexicon.Regex.Tree

/-! The smallest parts of a pattern: single characters, and what a backslash introduces. -/
namespace Lexicon.Regex
open Lexicon.Unicode (isHexDigit)

/-- A part that holds no other part. -/
inductive Primitive where
  | literal (literal : Literal)
  | dot (span : Span)
  | anchor (span : Span) (anchor : Anchor)
  | property (span : Span) (negated : Bool) (query : PropertyQuery)
  | perl (span : Span) (negated : Bool) (name : PerlClass)
  deriving DecidableEq, Repr

namespace Primitive

def span : Primitive → Span
  | literal l => l.span
  | dot span | anchor span _ | property span _ _ | perl span _ _ => span

def toTree : Primitive → Tree
  | literal l => .literal l
  | dot span => .dot span
  | anchor span a => .anchor span a
  | property span negated query => .property span negated query
  | perl span negated name => .perl span negated name

/-- As a member of a bracketed class; conditions on places are none. -/
def toClassItem : Primitive → Except Diagnostic ClassTree
  | literal l => .ok (.literal l)
  | property span negated query => .ok (.property span negated query)
  | perl span negated name => .ok (.perl span negated name)
  | dot span | anchor span _ => .error (.single .classEscapeInvalid span)

/-- As an end of a range. -/
def toRangeEnd : Primitive → Except Diagnostic Literal
  | literal l => .ok l
  | other => .error (.single .classRangeLiteral other.span)

end Primitive

def metaChars : List Char :=
  ['\\', '.', '+', '*', '?', '(', ')', '|', '[', ']', '\x7b', '\x7d', '^', '$', '#', '&', '-', '~']

def isMeta (c : Char) : Bool := metaChars.contains c

/-- A backslash before these only repeats them: ASCII characters that are neither letters, digits
nor angle brackets. -/
def isEscapable (c : Char) : Bool :=
  isMeta c || (c.toNat < 128 && !c.isAlphanum && c != '<' && c != '>')

def hexValue (digits : List Char) : Nat :=
  digits.foldl (fun n c =>
    n * 16 + (if c.isDigit then c.toNat - 48 else if 'a' ≤ c then c.toNat - 87 else c.toNat - 55)) 0

def decimalValue (digits : List Char) : Nat :=
  digits.foldl (fun n c => n * 10 + (c.toNat - 48)) 0

def charOfNat? (n : Nat) : Option Char :=
  if n.isValidChar then some (Char.ofNat n) else none

namespace Escape

/-- Reads exactly `count` hexadecimal digits. -/
def hexDigits (verbose : Bool) : (count : Nat) → Tape → Except Diagnostic (List Char × Tape)
  | 0, t => .ok ([], t)
  | count + 1, t =>
    match t.rest with
    | [] => .error (.single .escapeUnexpectedEnd (.point t.offset))
    | c :: _ =>
      if isHexDigit c then
        match hexDigits verbose count (t.nextSpaced verbose) with
        | .error e => .error e
        | .ok (more, t') => .ok (c :: more, t')
      else .error (.single .escapeHexInvalidDigit (.single t.offset))

/-- A code point in a fixed number of digits. -/
def hexFixed (verbose : Bool) (start count : Nat) (byte : Bool) (t : Tape) :
    Except Diagnostic (Primitive × Tape) :=
  match hexDigits verbose count t with
  | .error e => .error e
  | .ok (digits, t') =>
    match charOfNat? (hexValue digits) with
    | none => .error (.single .escapeHexInvalid ⟨t.offset, t'.offset⟩)
    | some c => .ok (.literal ⟨⟨start, t'.offset⟩, c, byte⟩, t')

/-- A code point between braces; the tape stands at the opening brace. -/
def hexBraced (verbose : Bool) (start : Nat) (t : Tape) : Except Diagnostic (Primitive × Tape) :=
  let (digits, t') := (t.nextSpaced verbose).takeSpaced verbose isHexDigit
  match t'.rest with
  | [] => .error (.single .escapeUnexpectedEnd ⟨t.offset, t'.offset⟩)
  | '\x7d' :: _ =>
    let t'' := t'.nextSpaced verbose
    if digits.isEmpty then .error (.single .escapeHexEmpty ⟨t.offset, t''.offset⟩)
    else match charOfNat? (hexValue digits) with
      | none => .error (.single .escapeHexInvalid ⟨t.offset + 1, t'.offset⟩)
      | some c => .ok (.literal ⟨⟨start, t''.offset⟩, c, false⟩, t'')
  | _ => .error (.single .escapeHexInvalidDigit (.single t'.offset))

/-- A code point after `x`, `u` or `U`; the tape stands at that letter. -/
def hex (verbose : Bool) (start : Nat) (letter : Char) (t : Tape) :
    Except Diagnostic (Primitive × Tape) :=
  let t' := t.nextSpaced verbose
  match t'.rest with
  | [] => .error (.single .escapeUnexpectedEnd (.point t'.offset))
  | '\x7b' :: _ => hexBraced verbose start t'
  | _ => hexFixed verbose start (if letter = 'x' then 2 else if letter = 'u' then 4 else 8)
      (letter == 'x') t'

/-- Splits at the first place where the list starts with `separator`. -/
def splitAt? (separator : List Char) : List Char → Option (List Char × List Char)
  | [] => none
  | c :: rest =>
    if separator.isPrefixOf (c :: rest) then some ([], (c :: rest).drop separator.length)
    else (splitAt? separator rest).map fun (before, after) => (c :: before, after)

/-- A name, or a property and a value separated by `!=`, `:` or `=`. -/
def propertyQuery (name : List Char) : PropertyQuery :=
  match (splitAt? ['!', '='] name).or ((splitAt? [':'] name).or (splitAt? ['='] name)) with
  | some (property, value) => .value (String.ofList property) (String.ofList value)
  | none => .name (String.ofList name)

/-- A named class after `p` or `P`; the tape stands at that letter. -/
def property (verbose : Bool) (start : Nat) (negated : Bool) (t : Tape) :
    Except Diagnostic (Primitive × Tape) :=
  let t' := t.nextSpaced verbose
  match t'.rest with
  | [] => .error (.single .escapeUnexpectedEnd (.point t'.offset))
  | '\x7b' :: _ =>
    let (name, t'') := (t'.nextSpaced verbose).takeSpaced verbose (· != '\x7d')
    if t''.rest.isEmpty then .error (.single .escapeUnexpectedEnd (.point t''.offset))
    else .ok (.property ⟨start, t''.next.offset⟩ negated (propertyQuery name), t''.next)
  | c :: _ =>
    if c = '\\' then .error (.single .unicodeClassInvalid (.single t'.offset))
    else
      let t'' := t'.nextSpaced verbose
      .ok (.property ⟨start, t''.offset⟩ negated (.name (String.ofList [c])), t'')

def wordBoundaryNamed? : List Char → Option Anchor
  | ['s', 't', 'a', 'r', 't'] => some .wordStart
  | ['e', 'n', 'd'] => some .wordEnd
  | ['s', 't', 'a', 'r', 't', '-', 'h', 'a', 'l', 'f'] => some .wordStartHalf
  | ['e', 'n', 'd', '-', 'h', 'a', 'l', 'f'] => some .wordEndHalf
  | _ => none

def isWordBoundaryLetter (c : Char) : Bool := c.isAlpha || c == '-'

/-- The rest of a word boundary that may go on in braces; the tape stands after `\b`. Braces whose
first character can begin no name are left to the repetition. -/
def wordBoundary (verbose : Bool) (start : Nat) (t : Tape) : Except Diagnostic (Primitive × Tape) :=
  let plain := (Primitive.anchor ⟨start, t.offset⟩ .wordBoundary, t)
  if t.peek? = some '\x7b' then
    let inside := t.nextSpaced verbose
    match inside.rest with
    | [] => .error (.single .specialWordOrRepetitionUnexpectedEnd ⟨start, inside.offset⟩)
    | c :: _ =>
      if isWordBoundaryLetter c then
        let (name, t') := inside.takeSpaced verbose isWordBoundaryLetter
        if t'.peek? = some '\x7d' then
          match wordBoundaryNamed? name with
          | some a => .ok (.anchor ⟨start, t'.next.offset⟩ a, t'.next)
          | none => .error (.single .specialWordBoundaryUnrecognized ⟨inside.offset, t'.offset⟩)
        else .error (.single .specialWordBoundaryUnclosed ⟨t.offset, t'.offset⟩)
      else .ok plain
  else .ok plain

def controlNamed? : Char → Option Char
  | 'a' => some '\x07'
  | 'f' => some '\x0c'
  | 't' => some '\t'
  | 'n' => some '\n'
  | 'r' => some '\r'
  | 'v' => some '\x0b'
  | _ => none

def anchorNamed? : Char → Option Anchor
  | 'A' => some .startText
  | 'z' => some .endText
  | 'B' => some .notWordBoundary
  | '<' => some .wordStart
  | '>' => some .wordEnd
  | _ => none

def perlNamed? : Char → Option (Bool × PerlClass)
  | 'd' => some (false, .digit)
  | 'D' => some (true, .digit)
  | 's' => some (false, .space)
  | 'S' => some (true, .space)
  | 'w' => some (false, .word)
  | 'W' => some (true, .word)
  | _ => none

/-- What one character after a backslash means by itself; `after` is the tape behind it. -/
def letter (verbose : Bool) (start : Nat) (c : Char) (after : Tape) :
    Except Diagnostic (Primitive × Tape) :=
  let span : Span := ⟨start, after.offset⟩
  if isEscapable c then .ok (.literal ⟨span, c, false⟩, after)
  else if c = 'b' then wordBoundary verbose start after
  else match controlNamed? c, anchorNamed? c, perlNamed? c with
    | some control, _, _ => .ok (.literal ⟨span, control, false⟩, after)
    | _, some a, _ => .ok (.anchor span a, after)
    | _, _, some (negated, name) => .ok (.perl span negated name, after)
    | none, none, none => .error (.single .escapeUnrecognized span)

/-- Reads what a backslash introduces; the tape stands at the backslash. -/
def read (verbose : Bool) (t : Tape) : Except Diagnostic (Primitive × Tape) :=
  let after := t.next
  match after.rest with
  | [] => .error (.single .escapeUnexpectedEnd ⟨t.offset, after.offset⟩)
  | c :: _ =>
    if c.isDigit then .error (.single .unsupportedBackreference ⟨t.offset, after.offset + 1⟩)
    else if c = 'x' ∨ c = 'u' ∨ c = 'U' then hex verbose t.offset c after
    else if c = 'p' ∨ c = 'P' then property verbose t.offset (c == 'P') after
    else letter verbose t.offset c after.next

end Escape

/-- Reads a part that holds no other part; the tape stands at its first character `c`. -/
def readPrimitive (verbose : Bool) (c : Char) (t : Tape) : Except Diagnostic (Primitive × Tape) :=
  match c with
  | '\\' => Escape.read verbose t
  | '.' => .ok (.dot (.single t.offset), t.next)
  | '^' => .ok (.anchor (.single t.offset) .startLine, t.next)
  | '$' => .ok (.anchor (.single t.offset) .endLine, t.next)
  | c => .ok (.literal ⟨.single t.offset, c, false⟩, t.next)

end Lexicon.Regex

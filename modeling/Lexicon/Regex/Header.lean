import Lexicon.Regex.Escape

/-! What opens a group, and what repeats a part. -/
namespace Lexicon.Regex
open Lexicon.Unicode (isAlphabetic isNumeric)

/-- What follows an opening parenthesis: a group, or flags for the rest of the enclosing group. -/
inductive Header where
  | capture
  | named (name : String) (span : Span)
  | plain (flags : FlagItems)
  | setFlags (flags : FlagItems)
  deriving DecidableEq, Repr

namespace Header

def flagOf? : Char → Option Flag
  | 'i' => some .caseInsensitive
  | 'm' => some .multiLine
  | 's' => some .dotMatchesNewLine
  | 'U' => some .swapGreed
  | 'u' => some .unicode
  | 'R' => some .crlf
  | 'x' => some .ignoreBlanks
  | _ => none

/-- Where an item of the same kind was written before. -/
def earlier? (items : FlagItems) (item : FlagItem) : Option Span :=
  (items.find? fun entry => entry.2 = item).map (·.1)

/-- Reads flags up to a colon or a closing parenthesis; `items` are those before. The result is the
flags, the closing character, and what is behind it. -/
def flags (items : FlagItems) : List Char → (offset : Nat) →
    Except Diagnostic (FlagItems × Char × List Char × Nat)
  | [], offset => .error (.single .flagUnexpectedEnd (.point offset))
  | c :: rest, offset =>
    if c = ':' ∨ c = ')' then
      match items.getLast? with
      | some (span, .negation) => .error (.single .flagDanglingNegation span)
      | _ => .ok (items, c, rest, offset + 1)
    else if c = '-' then
      match earlier? items .negation with
      | some first => .error ⟨.flagRepeatedNegation, .single offset, some first⟩
      | none => flags (items ++ [(.single offset, .negation)]) rest (offset + 1)
    else match flagOf? c with
      | none => .error (.single .flagUnrecognized (.single offset))
      | some f =>
        match earlier? items (.flag f) with
        | some first => .error ⟨.flagDuplicate, .single offset, some first⟩
        | none => flags (items ++ [(.single offset, .flag f)]) rest (offset + 1)

def isNameStart (c : Char) : Bool := c == '_' || isAlphabetic c

def isNameChar (c : Char) : Bool :=
  c == '_' || c == '.' || c == '[' || c == ']' || isAlphabetic c || isNumeric c

/-- Reads the characters of a name up to the closing angle bracket, which is passed over. -/
def nameChars (first : Bool) : List Char → (offset : Nat) →
    Except Diagnostic (List Char × List Char × Nat)
  | [], offset => .error (.single .groupNameUnexpectedEnd (.point offset))
  | c :: rest, offset =>
    if c = '>' then .ok ([], rest, offset + 1)
    else if (if first then isNameStart c else isNameChar c) then
      match nameChars false rest (offset + 1) with
      | .error e => .error e
      | .ok (name, rest', offset') => .ok (c :: name, rest', offset')
    else .error (.single .groupNameInvalid (.single offset))

/-- The name of a group; the tape stands at its first character. -/
def name (t : Tape) : Except Diagnostic (Header × Tape) :=
  match nameChars true t.rest t.offset with
  | .error e => .error e
  | .ok (name, rest, offset) =>
    if name.isEmpty then .error (.single .groupNameEmpty (.point t.offset))
    else .ok (.named (String.ofList name) ⟨t.offset, offset - 1⟩, ⟨rest, offset, t.openComment⟩)

def lookAroundMarks : List (List Char) :=
  [['?', '='], ['?', '!'], ['?', '<', '='], ['?', '<', '!']]

/-- Reads what opens a group; the tape stands at the parenthesis. -/
def read (verbose : Bool) (t : Tape) : Except Diagnostic (Header × Tape) :=
  let t' := t.nextSpaced verbose
  match lookAroundMarks.findSome? t'.skip? with
  | some t'' => .error (.single .unsupportedLookAround ⟨t.offset, t''.offset⟩)
  | none =>
    match (t'.skip? ['?', 'P', '<']).or (t'.skip? ['?', '<']) with
    | some t'' => name t''
    | none =>
      match t'.skip? ['?'] with
      | none => .ok (.capture, t')
      | some t'' =>
        if t''.rest.isEmpty then .error (.single .groupUnclosed (.single t.offset))
        else match flags [] t''.rest t''.offset with
          | .error e => .error e
          | .ok (items, close, rest, offset) =>
            let after : Tape := ⟨rest, offset, t''.openComment⟩
            if close = ':' then .ok (.plain items, after)
            else if items.isEmpty then .error (.single .repetitionMissing (.point t'.offset))
            else .ok (.setFlags items, after)

end Header

namespace Count

/-- A decimal number, with what goes around it; blanks before it are passed over in any mode. -/
def decimal (verbose : Bool) (t : Tape) : Except Diagnostic Nat × Tape :=
  let start := t.skipWhite
  let (digits, t') := start.takeSpaced verbose Char.isDigit
  let span : Span := ⟨start.offset, t'.offset⟩
  let after := t'.skipWhite.skipBlanks verbose
  if digits.isEmpty then (.error (.single .repetitionCountDecimalEmpty span), after)
  else if decimalValue digits < 0x100000000 then (.ok (decimalValue digits), after)
  else (.error (.single .decimalInvalid span), after)

/-- The numbers between braces; the tape stands behind the opening brace, which is at `start`. A
missing first number is a fault only once the form of the range is known. -/
def range (verbose : Bool) (start : Nat) (t : Tape) : Except Diagnostic (Count × Tape) :=
  let unclosed (t : Tape) : Except Diagnostic (Count × Tape) :=
    .error (.single .repetitionCountUnclosed ⟨start, t.offset⟩)
  if t.rest.isEmpty then unclosed t
  else
    let (least, t1) := decimal verbose t
    if t1.rest.isEmpty then unclosed t1
    else if t1.peek? = some ',' then
      let t2 := t1.nextSpaced verbose
      if t2.rest.isEmpty then unclosed t2
      else if t2.peek? = some '\x7d' then least.map fun n => (⟨n, none⟩, t2)
      else match least with
        | .error e => .error e
        | .ok n =>
          let (most, t3) := decimal verbose t2
          match most with
          | .error e => .error e
          | .ok m => if t3.peek? = some '\x7d' then .ok (⟨n, some m⟩, t3) else unclosed t3
    else match least with
      | .error e => .error e
      | .ok n => if t1.peek? = some '\x7d' then .ok (⟨n, some n⟩, t1) else unclosed t1

/-- A question mark after a repetition makes it take as little as it can. -/
def greed (t : Tape) : Bool × Tape :=
  if t.peek? = some '?' then (false, t.next) else (true, t)

/-- Reads a repetition operator; the tape stands at its first character `c`. -/
def read (verbose : Bool) (c : Char) (t : Tape) : Except Diagnostic (Count × Bool × Tape) :=
  match c with
  | '?' => let (greedy, t') := greed t.next; .ok (⟨0, some 1⟩, greedy, t')
  | '*' => let (greedy, t') := greed t.next; .ok (⟨0, none⟩, greedy, t')
  | '+' => let (greedy, t') := greed t.next; .ok (⟨1, none⟩, greedy, t')
  | _ =>
    match range verbose t.offset (t.nextSpaced verbose) with
    | .error e => .error e
    | .ok (count, t') =>
      let (greedy, t'') := greed (t'.nextSpaced verbose)
      if count.most.any (· < count.least) then
        .error (.single .repetitionCountInvalid ⟨t.offset, t''.offset⟩)
      else .ok (count, greedy, t'')

end Count
end Lexicon.Regex

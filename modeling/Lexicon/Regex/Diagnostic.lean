import Lexicon.Text.Span

/-! What can be wrong with a pattern, and how the fault is shown: the pattern is repeated with marks
under the stretches at fault. -/
namespace Lexicon.Regex

inductive Fault where
  | classEscapeInvalid
  | classRangeInvalid
  | classRangeLiteral
  | classUnclosed
  | decimalInvalid
  | escapeHexEmpty
  | escapeHexInvalid
  | escapeHexInvalidDigit
  | escapeUnexpectedEnd
  | escapeUnrecognized
  | flagDanglingNegation
  | flagDuplicate
  | flagRepeatedNegation
  | flagUnexpectedEnd
  | flagUnrecognized
  | groupNameDuplicate
  | groupNameEmpty
  | groupNameInvalid
  | groupNameUnexpectedEnd
  | groupUnclosed
  | groupUnopened
  | nestingLimitExceeded (limit : Nat)
  | repetitionCountInvalid
  | repetitionCountDecimalEmpty
  | repetitionCountUnclosed
  | repetitionMissing
  | specialWordBoundaryUnclosed
  | specialWordBoundaryUnrecognized
  | specialWordOrRepetitionUnexpectedEnd
  | unicodeClassInvalid
  | unsupportedBackreference
  | unsupportedLookAround
  | unicodeNotAllowed
  | invalidUtf8
  | propertyNotFound
  | propertyValueNotFound
  deriving DecidableEq, Repr

def Fault.message : Fault → String
  | classEscapeInvalid => "invalid escape sequence found in character class"
  | classRangeInvalid => "invalid character class range, the start must be <= the end"
  | classRangeLiteral => "invalid range boundary, must be a literal"
  | classUnclosed => "unclosed character class"
  | decimalInvalid => "decimal literal invalid"
  | escapeHexEmpty => "hexadecimal literal empty"
  | escapeHexInvalid => "hexadecimal literal is not a Unicode scalar value"
  | escapeHexInvalidDigit => "invalid hexadecimal digit"
  | escapeUnexpectedEnd => "incomplete escape sequence, reached end of pattern prematurely"
  | escapeUnrecognized => "unrecognized escape sequence"
  | flagDanglingNegation => "dangling flag negation operator"
  | flagDuplicate => "duplicate flag"
  | flagRepeatedNegation => "flag negation operator repeated"
  | flagUnexpectedEnd => "expected flag but got end of regex"
  | flagUnrecognized => "unrecognized flag"
  | groupNameDuplicate => "duplicate capture group name"
  | groupNameEmpty => "empty capture group name"
  | groupNameInvalid => "invalid capture group character"
  | groupNameUnexpectedEnd => "unclosed capture group name"
  | groupUnclosed => "unclosed group"
  | groupUnopened => "unopened group"
  | nestingLimitExceeded limit =>
    "exceed the maximum number of nested parentheses/brackets (" ++ toString limit ++ ")"
  | repetitionCountInvalid => "invalid repetition count range, the start must be <= the end"
  | repetitionCountDecimalEmpty => "repetition quantifier expects a valid decimal"
  | repetitionCountUnclosed => "unclosed counted repetition"
  | repetitionMissing => "repetition operator missing expression"
  | specialWordBoundaryUnclosed =>
    "special word boundary assertion is either unclosed or contains an invalid character"
  | specialWordBoundaryUnrecognized =>
    "unrecognized special word boundary assertion, valid choices are: start, end, start-half or end-half"
  | specialWordOrRepetitionUnexpectedEnd =>
    "found either the beginning of a special word boundary or a bounded repetition on a \\b "
      ++ "with an opening brace, but no closing brace"
  | unicodeClassInvalid => "invalid Unicode character class"
  | unsupportedBackreference => "backreferences are not supported"
  | unsupportedLookAround => "look-around, including look-ahead and look-behind, is not supported"
  | unicodeNotAllowed => "Unicode not allowed here"
  | invalidUtf8 => "pattern can match invalid UTF-8"
  | propertyNotFound => "Unicode property not found"
  | propertyValueNotFound => "Unicode property value not found"

/-- A fault, where it is, and for a repeated declaration where the first one is. -/
structure Diagnostic where
  fault : Fault
  span : Span
  earlier : Option Span
  deriving DecidableEq, Repr

def Diagnostic.single (fault : Fault) (span : Span) : Diagnostic := ⟨fault, span, none⟩

/-- The line and the column of an offset, both counted from one. -/
structure Place where
  line : Nat
  column : Nat
  deriving DecidableEq, Repr

def Place.ofOffset (pattern : List Char) (offset : Nat) : Place :=
  (pattern.take offset).foldl
    (fun place c =>
      if c = '\n' then ⟨place.line + 1, 1⟩ else ⟨place.line, place.column + 1⟩) ⟨1, 1⟩

/-- The lines of a text; a line feed after the last line opens no further line, and a carriage return
before a line feed belongs to the line's end. -/
def lines : List Char → List (List Char)
  | [] => []
  | '\n' :: rest => [] :: lines rest
  | '\r' :: '\n' :: rest => [] :: lines rest
  | c :: rest =>
    match rest, lines rest with
    | [], _ => [[c]]
    | _ :: _, line :: others => (c :: line) :: others
    | _ :: _, [] => [[c]]

namespace Diagnostic

/-- A stretch with the places of its two ends. -/
structure Mark where
  span : Span
  first : Place
  last : Place

def Mark.ofSpan (pattern : List Char) (span : Span) : Mark :=
  ⟨span, Place.ofOffset pattern span.start, Place.ofOffset pattern span.stop⟩

/-- The marks of a diagnostic from left to right. -/
def marks (d : Diagnostic) (pattern : List Char) : List Mark :=
  let spans := match d.earlier with
    | none => [d.span]
    | some o => if d.span.precedes o then [d.span, o] else [o, d.span]
  spans.map (Mark.ofSpan pattern)

/-- Blanks up to each mark's column and one caret per marked character, at least one. -/
def carets : Nat → List Mark → List Char
  | _, [] => []
  | column, m :: rest =>
    let gap := (m.first.column - 1) - column
    let width := max 1 (m.last.column - m.first.column)
    List.replicate gap ' ' ++ List.replicate width '^' ++ carets (column + gap + width) rest

def padLeft (width : Nat) (digits : List Char) : List Char :=
  List.replicate (width - digits.length) ' ' ++ digits

/-- The pattern line by line, each with its number if there are several, and the marks below. -/
def notated (pattern : List Char) (width : Nat) (marks : List Mark) :
    (number : Nat) → List (List Char) → List Char
  | _, [] => []
  | number, line :: rest =>
    let margin := if width = 0 then [' ', ' ', ' ', ' ']
      else padLeft width (toString number).toList ++ [':', ' ']
    let here := marks.filter fun m => m.first.line = m.last.line && m.first.line = number
    let notes := if here.isEmpty then []
      else List.replicate margin.length ' ' ++ carets 0 here ++ ['\n']
    margin ++ line ++ ['\n'] ++ notes ++ notated pattern width marks (number + 1) rest

def divider : String := String.ofList (List.replicate 79 '~')

/-- The note on a stretch that covers several lines. -/
def Mark.note (m : Mark) : String :=
  "on line " ++ toString m.first.line ++ " (column " ++ toString m.first.column ++ ") through line " ++
    toString m.last.line ++ " (column " ++ toString (m.last.column - 1) ++ ")"

/-- The whole report. -/
def report (d : Diagnostic) (source : String) : String :=
  let pattern := source.toList
  let ls := lines pattern
  let count := if pattern.getLast? = some '\n' then ls.length + 1 else ls.length
  let width := if count ≤ 1 then 0 else (toString count).length
  let marks := d.marks pattern
  let body := String.ofList (notated pattern width marks 1 ls)
  let message := "error: " ++ d.fault.message
  if pattern.contains '\n' then
    let long := marks.filter fun m => m.first.line ≠ m.last.line
    let notes := if long.isEmpty then "" else "\n".intercalate (long.map Mark.note) ++ "\n"
    "regex parse error:\n" ++ divider ++ "\n" ++ body ++ divider ++ "\n" ++ notes ++ message
  else "regex parse error:\n" ++ body ++ message

end Diagnostic
end Lexicon.Regex

import Lexicon.Text.Bytes
import Lexicon.Text.Outline

/-! Places in a JSON text, and what can be wrong there. -/
namespace Lexicon.Json

inductive Cause where
  | endInList | endInObject | endInString | endInValue
  | expectedColon | expectedListCommaOrEnd | expectedObjectCommaOrEnd | expectedIdent | expectedValue
  | invalidEscape | invalidNumber | numberOutOfRange | controlCharacter | keyMustBeString
  | loneSurrogate | unexpectedEndOfHexEscape | trailingComma | trailingCharacters
  | recursionLimit
  | invalidType (found expected : String)
  | unknownVariant (name : String)
  | missingField (name : String)
  | duplicateField (name : String)
  deriving DecidableEq, Repr

def Cause.message : Cause → String
  | endInList => "EOF while parsing a list"
  | endInObject => "EOF while parsing an object"
  | endInString => "EOF while parsing a string"
  | endInValue => "EOF while parsing a value"
  | expectedColon => "expected `:`"
  | expectedListCommaOrEnd => "expected `,` or `]`"
  | expectedObjectCommaOrEnd => "expected `,` or `\x7d`"
  | expectedIdent => "expected ident"
  | expectedValue => "expected value"
  | invalidEscape => "invalid escape"
  | invalidNumber => "invalid number"
  | numberOutOfRange => "number out of range"
  | controlCharacter => "control character (\\u0000-\\u001F) found while parsing a string"
  | keyMustBeString => "key must be a string"
  | loneSurrogate => "lone leading surrogate in hex escape"
  | unexpectedEndOfHexEscape => "unexpected end of hex escape"
  | trailingComma => "trailing comma"
  | trailingCharacters => "trailing characters"
  | recursionLimit => "recursion limit exceeded"
  | invalidType found expected => "invalid type: " ++ found ++ ", expected " ++ expected
  | unknownVariant name => "unknown variant `" ++ name ++ "`, expected `token` or `skip`"
  | missingField name => "missing field `" ++ name ++ "`"
  | duplicateField name => "duplicate field `" ++ name ++ "`"

/-- A fault and its place: the line from one, and how many bytes of the line are before it. -/
structure Error where
  cause : Cause
  line : Nat
  column : Nat
  deriving DecidableEq, Repr

namespace Error

def message (e : Error) : String :=
  e.cause.message ++ " at line " ++ toString e.line ++ " column " ++ toString e.column

def outline (e : Error) : Outline :=
  .tuple "Error" [
    .ofText e.cause.message, .field "line" (.ofNat e.line), .field "column" (.ofNat e.column)]

end Error

/-- The unread text and the place before it. -/
structure Tape where
  rest : List Char
  line : Nat
  column : Nat
  deriving DecidableEq, Repr

namespace Tape

def start (text : List Char) : Tape := ⟨text, 1, 0⟩

def next (t : Tape) : Tape :=
  match t.rest with
  | [] => t
  | '\n' :: rest => ⟨rest, t.line + 1, 0⟩
  | x :: rest => ⟨rest, t.line, t.column + x.utf8Size⟩

/-- Moves past up to `count` characters. -/
def skip : (count : Nat) → Tape → Tape
  | 0, t => t
  | count + 1, t => skip count t.next

/-- Moves past blanks, tabs and ends of lines. -/
def skipSpace (t : Tape) : Tape :=
  skip (t.rest.takeWhile fun x => x == ' ' || x == '\n' || x == '\t' || x == '\r').length t

/-- A fault between what was read and what was not. -/
def fail {α : Type} (t : Tape) (cause : Cause) : Except Error α := .error ⟨cause, t.line, t.column⟩

/-- A fault at the next byte, which counts as read. -/
def failAhead {α : Type} (t : Tape) (cause : Cause) : Except Error α :=
  match t.rest with
  | [] => t.fail cause
  | '\n' :: _ => .error ⟨cause, t.line + 1, 0⟩
  | _ :: _ => .error ⟨cause, t.line, t.column + 1⟩

end Tape
end Lexicon.Json

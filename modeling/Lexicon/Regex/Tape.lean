import Lexicon.Unicode.Property

/-! The unread rest of a pattern. In verbose mode blanks and comments between the parts of a pattern
mean nothing; a comment runs from `#` to the end of its line. -/
namespace Lexicon.Regex
open Lexicon.Unicode (isBlank)

/-- The unread characters, how many were read before them, and whether the pattern ended inside
a comment. -/
structure Tape where
  rest : List Char
  offset : Nat
  openComment : Bool
  deriving DecidableEq, Repr

namespace Tape

def ofList (pattern : List Char) : Tape := ⟨pattern, 0, false⟩

def peek? (t : Tape) : Option Char := t.rest.head?

/-- Moves past one character; at the end of the pattern it stays. -/
def next (t : Tape) : Tape :=
  match t.rest with
  | [] => t
  | _ :: rest => { t with rest, offset := t.offset + 1 }

/-- Moves past `word` if the rest starts with it. -/
def skip? (t : Tape) (word : List Char) : Option Tape :=
  if word.isPrefixOf t.rest then
    some { t with rest := t.rest.drop word.length, offset := t.offset + word.length }
  else none

/-- Collects the accepted characters up to the first other one. In verbose mode blanks and comments
around them are passed over; `comment` says that the tape stands inside a comment. -/
def gather (verbose : Bool) (accept : Char → Bool) :
    (comment : Bool) → List Char → (offset : Nat) → List Char × Tape
  | comment, [], offset => ([], ⟨[], offset, comment⟩)
  | true, c :: rest, offset => gather verbose accept (c ≠ '\n') rest (offset + 1)
  | false, c :: rest, offset =>
    if verbose && isBlank c then gather verbose accept false rest (offset + 1)
    else if verbose && c == '#' then gather verbose accept true rest (offset + 1)
    else if accept c then
      let (taken, t) := gather verbose accept false rest (offset + 1)
      (c :: taken, t)
    else ([], ⟨c :: rest, offset, false⟩)

/-- The accepted characters from here on, and the tape after them. -/
def takeSpaced (t : Tape) (verbose : Bool) (accept : Char → Bool) : List Char × Tape :=
  gather verbose accept t.openComment t.rest t.offset

/-- Moves past blanks and comments in verbose mode. -/
def skipBlanks (t : Tape) (verbose : Bool) : Tape :=
  (t.takeSpaced verbose fun _ => false).2

/-- Moves past one character and what means nothing after it. -/
def nextSpaced (t : Tape) (verbose : Bool) : Tape :=
  t.next.skipBlanks verbose

/-- Moves past blanks, whatever the mode. -/
def skipWhite (t : Tape) : Tape :=
  let white := t.rest.takeWhile isBlank
  { t with rest := t.rest.drop white.length, offset := t.offset + white.length }

/-- The character after the current one. In verbose mode it is the first one behind blanks and one
`#`; if there is none, the one directly after the current one. -/
def peekSpaced? (t : Tape) (verbose : Bool) : Option Char :=
  let rest := t.rest.drop 1
  if verbose then
    (match rest.dropWhile isBlank with
      | '#' :: more => more.dropWhile isBlank
      | more => more).head?.or rest.head?
  else rest.head?

end Tape
end Lexicon.Regex

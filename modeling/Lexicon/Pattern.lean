import Lexicon.Regex
import Lexicon.Text.Bytes
import Lexicon.Text.Outline

/-! What a definition matches at the cursor: an exact text, or a regular expression. -/
namespace Lexicon

inductive Pattern where
  | literal (text : String)
  | regex (re : Regex)
  deriving DecidableEq, Repr

/-- A pattern that does not compile, and why. -/
structure PatternError where
  pattern : String
  error : Regex.Error
  deriving DecidableEq, Repr

namespace PatternError

def message (e : PatternError) : String :=
  "invalid pattern '" ++ e.pattern ++ "': " ++ e.error.message

/-- Compiles a source; a fault is reported with the source. -/
def guard (source : String) (result : Except Regex.Error Regex) : Except PatternError Regex :=
  match result with
  | .error e => .error ⟨source, e⟩
  | .ok re => .ok re

end PatternError

namespace Pattern

def ofRegex [Regex.Engine] (source : String) : Except PatternError Pattern :=
  (PatternError.guard source (Regex.compile source)).map .regex

/-- The pattern as a regular expression; a literal is escaped. -/
def source : Pattern → String
  | literal text => Regex.escape text
  | regex re => re.source

/-- Whether what follows the source would be read as part of a comment. -/
def endsInOpenComment (source : String) : Bool :=
  match Regex.read false source.toList with
  | .error _ => false
  | .ok reading => reading.openComment

/-- The source, fit to be followed by a closing parenthesis: an open comment is closed by a line feed,
which means nothing where comments are read. -/
def groupSource (p : Pattern) : String :=
  if endsInOpenComment p.source then p.source ++ "\n" else p.source

/-- How many groups the pattern itself has, as far as the last that is left once it is compiled. -/
def innerGroups : Pattern → Nat
  | literal _ => 0
  | regex re => re.captureCount - 1

def outline : Pattern → Outline
  | literal text => .ofText text
  | regex re => .atom ("/" ++ re.source ++ "/")

end Pattern

/-- A pattern compiled to test the text at the cursor. -/
structure Lookahead where
  anchored : Regex
  deriving DecidableEq, Repr

namespace Lookahead

/-- The pattern behind the start of the text. -/
def sourceOf (p : Pattern) : String := "\\A(?:" ++ p.groupSource ++ ")"

def ofPattern [Regex.Engine] (p : Pattern) : Except PatternError Lookahead :=
  (PatternError.guard (sourceOf p) (Regex.compile (sourceOf p))).map (⟨·⟩)

/-- How many bytes of the text are before the end of the match. -/
def matchLength (l : Lookahead) (text : List Char) : Option Nat :=
  (l.anchored.find text).map fun m => utf8Length (text.take (m.start + m.length))

def outline (l : Lookahead) : Outline :=
  .record "Lookahead" [.field "anchored" (.tuple "Regex" [.ofText l.anchored.source])]

end Lookahead
end Lexicon

import Lexicon.Regex.Lowering
import Lexicon.Regex.Reader
import Lexicon.Regex.Search

/-! Compiled regular expressions. -/
namespace Lexicon

namespace Regex

/-- Switches that are not written in the pattern. -/
structure Options where
  flags : Flags
  ignoreBlanks : Bool
  deriving DecidableEq, Repr

def Options.default : Options := ⟨.initial, false⟩

/-- How many bytes a compiled pattern may take. -/
def sizeLimit : Nat := 10485760

inductive Error where
  | malformed (source : String) (diagnostic : Diagnostic)
  | tooLarge (limit : Nat)
  deriving DecidableEq, Repr

namespace Error

def message : Error → String
  | malformed source diagnostic => diagnostic.report source
  | tooLarge limit => "Compiled regex exceeds size limit of " ++ toString limit ++ " bytes."

/-- The error as a value, for readers who look into programs. -/
def debug : Error → String
  | malformed source diagnostic =>
    "Syntax(\n" ++ Diagnostic.divider ++ "\n" ++ diagnostic.report source ++ "\n" ++
      Diagnostic.divider ++ "\n)"
  | tooLarge limit => "CompiledTooBig(" ++ toString limit ++ ")"

end Error
end Regex

/-- A regular expression ready for search. -/
structure Regex where
  source : String
  expr : Regex.Expr
  program : Array Regex.Instr
  deriving DecidableEq, Repr

namespace Regex

def ofExpr (source : String) (expr : Expr) : Regex := ⟨source, expr, expr.program⟩

section
variable [Engine]

/-- The meaning of a pattern. -/
def parse (options : Options) (source : String) : Except Diagnostic Expr :=
  match read options.ignoreBlanks source.toList with
  | .error d => .error d
  | .ok reading => (reading.tree.lower options.flags).map (·.1)

def compileWith (options : Options) (source : String) : Except Error Regex :=
  match parse options source with
  | .error d => .error (.malformed source d)
  | .ok expr =>
    if sizeLimit < Engine.weight expr then .error (.tooLarge sizeLimit) else .ok (ofExpr source expr)

def compile (source : String) : Except Error Regex := compileWith .default source

end

/-- The number of groups, the whole match included. It is told by the last group: groups that are left out of the
expression count in front of it, but not behind it. -/
def captureCount (re : Regex) : Nat := re.expr.highestGroup + 1

/-- The leftmost match in a text. -/
def find (re : Regex) (text : List Char) : Option Match :=
  search re.program re.expr.isAnchored none 0 text

/-- The leftmost match in a text, with its groups written to a store. -/
def findInto (re : Regex) (locations : Locations) (text : List Char) : Option Match × Locations :=
  (re.find text, locations.record (re.find text))

/-- A pattern that matches exactly this text. -/
def escape (text : String) : String :=
  String.ofList (text.toList.flatMap fun c => if isMeta c then ['\\', c] else [c])

end Regex
end Lexicon

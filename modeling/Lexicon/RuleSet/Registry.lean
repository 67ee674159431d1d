import Lexicon.Files
import Lexicon.RuleSet.Json

/-! From a rule file to a registry. -/
namespace Lexicon

/-- Why there is no registry. -/
inductive RegistryError where
  | unreadable (path : String) (error : ReadError)
  | malformed (error : Json.Error)
  | rule (error : ApplyError)
  | build (error : BuildError)
  deriving DecidableEq, Repr

def PatternError.outline (e : PatternError) : Outline :=
  .record "InvalidPattern" [.field "pattern" (.ofText e.pattern), .field "source" (.atom e.error.debug)]

/-- A file that could not be read, as a value. -/
def ReadError.fileOutline (path : String) (e : ReadError) : Outline :=
  .record "FileIo" [.field "path" (.atom (quotedPath path)), .field "source" e.outline]

namespace RegistryError

def message : RegistryError → String
  | unreadable path e => "io failed for '" ++ path ++ "': '" ++ e.message ++ "'"
  | malformed e => "malformed rule file: " ++ e.message
  | rule e => e.message
  | build e => e.message

def outline : RegistryError → Outline
  | unreadable path e => e.fileOutline path
  | malformed e => .tuple "RuleFile" [e.outline]
  | rule (.ambiguous index) => .record "AmbiguousRule" [.field "index" (.ofNat index)]
  | rule (.invalidPattern e) | build (.invalidPattern e) => e.outline
  | build .empty => .atom "Empty"

end RegistryError

namespace RuleSet
variable {σ ν : Type}

/-- The registry of the rules alone. -/
def toRegistry [Regex.Engine] (rs : RuleSet) : Except RegistryError (Registry σ String ν) :=
  match rs.apply [] with
  | (some e, _) => .error (.rule e)
  | (none, definitions) =>
    match Registry.build definitions with
    | .error e => .error (.build e)
    | .ok r => .ok r

/-- What was read at a path, as rules. -/
def ofRead (path : String) : Except ReadError String → Except RegistryError RuleSet
  | .error e => .error (.unreadable path e)
  | .ok text =>
    match ofJson text with
    | .error e => .error (.malformed e)
    | .ok rs => .ok rs

/-- The rules in the file at a path. -/
def load {m : Type → Type} [Monad m] (read : String → m (Except ReadError String)) (path : String) :
    m (Except RegistryError RuleSet) :=
  return ofRead path (← read path)

end RuleSet
end Lexicon

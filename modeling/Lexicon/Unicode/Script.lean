import Lexicon.Unicode.ScriptTable
import Lexicon.Unicode.SortedTable

/-! The script of a character. A script is its rank in `scriptNames`. -/
namespace Lexicon.Unicode

structure Script where
  rank : Nat
  deriving DecidableEq, Repr

namespace Script

def contains (script : Script) (c : Char) : Bool :=
  runMark scriptRuns c.toNat == script.rank

/-- Reads a normalized name; two scripts have a second short name. -/
def ofName? (name : String) : Option Script :=
  let name := match name with
    | "qaac" => "coptic"
    | "qaai" => "inherited"
    | name => name
  (scriptNames.findIdx? fun entry => entry.1 == name || entry.2 == name).map (⟨·⟩)

end Script
end Lexicon.Unicode

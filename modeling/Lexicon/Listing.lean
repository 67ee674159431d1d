import Lexicon.Lexer.Scan

/-! A listing of the tokens of a source, one line a token. -/
namespace Lexicon

/-- What is listed of a token. -/
structure Listed where
  range : Span
  kind : String
  text : String
  deriving DecidableEq, Repr

namespace Listed

def line (t : Listed) : String := t.range.text ++ " " ++ t.kind ++ " " ++ quoted t.text ++ "\n"

/-- The lines of tokens, one after another. -/
def lines (tokens : List Listed) : String := String.join (tokens.map line)

end Listed

namespace Lexer
variable {σ ν : Type}

/-- What is listed of a token that the lexer has stored. -/
def listed (l : Lexer σ String ν) (kind : String) (id : TokenId) : Listed where
  range := (l.table.range? id).getD default
  kind := kind
  text := String.ofList ((l.text? id).getD [])

/-- All further tokens up to the end of the source or the first error, and the error. -/
def listing (l : Lexer σ String ν) (s : σ) : List Listed × Option ScanError :=
  match _scanned : l.nextToken s with
  | (.error e, _, _) => ([], some e)
  | (.ok none, _, _) => ([], none)
  | (.ok (some (kind, id)), l', s') =>
    match l'.listing s' with
    | (tokens, e) => (l'.listed kind id :: tokens, e)
termination_by l.cursor.rest.length
decreasing_by exact nextToken_token_shorter _scanned

end Lexer
end Lexicon

import Lexicon.Text.Quoted

/-! The parts of a value, written out on one line or with one part per line. -/
namespace Lexicon

inductive Outline where
  | atom (text : String)
  | field (label : String) (value : Outline)
  | tuple (name : String) (items : List Outline)
  | record (name : String) (fields : List Outline)
  | list (items : List Outline)

namespace Outline

def ofText (text : String) : Outline := atom (quoted text)

def ofNat (n : Nat) : Outline := atom (toString n)

def ofOption : Option Outline → Outline
  | none => atom "None"
  | some value => tuple "Some" [value]

mutual
/-- The value on one line. -/
def compact : Outline → String
  | atom text => text
  | field label value => label ++ ": " ++ value.compact
  | tuple name items => name ++ "(" ++ compactAll items ++ ")"
  | record name fields => name ++ " \x7b " ++ compactAll fields ++ " \x7d"
  | list items => "[" ++ compactAll items ++ "]"

def compactAll : List Outline → String
  | [] => ""
  | [item] => item.compact
  | item :: rest => item.compact ++ ", " ++ compactAll rest
end

/-- Sets every line of a text in by four blanks. -/
def indent (text : String) : String :=
  String.ofList (go true text.toList)
where
  go (lineStart : Bool) : List Char → List Char
    | [] => []
    | c :: rest =>
      (if lineStart then [' ', ' ', ' ', ' '] else []) ++ c :: go (c == '\n') rest

mutual
/-- The value with one part per line. -/
def pretty : Outline → String
  | atom text => text
  | field label value => label ++ ": " ++ value.pretty
  | tuple name items => name ++ "(" ++ prettyItems items ++ ")"
  | record name fields => name ++ " \x7b" ++ prettyItems fields ++ "\x7d"
  | list items => "[" ++ prettyItems items ++ "]"

def prettyItems : List Outline → String
  | [] => ""
  | items => "\n" ++ indent (prettyLines items)

def prettyLines : List Outline → String
  | [] => ""
  | item :: rest => item.pretty ++ ",\n" ++ prettyLines rest
end

end Outline
end Lexicon

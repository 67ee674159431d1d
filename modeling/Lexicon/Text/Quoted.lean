import Lexicon.Unicode.Property

/-! Quoted text, in which every character can be told apart: what has no glyph of its own is written
by its number. -/
namespace Lexicon.Quoted
open Lexicon.Unicode (isGraphemeExtend isPrintable)

/-- The number of a character, in hexadecimal digits between braces. -/
def byNumber (c : Char) : List Char :=
  ['\\', 'u', '\x7b'] ++ Nat.toDigits 16 c.toNat ++ ['\x7d']

def escapeChar (c : Char) : List Char :=
  if c = '\x00' then ['\\', '0']
  else if c = '\t' then ['\\', 't']
  else if c = '\r' then ['\\', 'r']
  else if c = '\n' then ['\\', 'n']
  else if c = '"' then ['\\', '"']
  else if c = '\\' then ['\\', '\\']
  else if isGraphemeExtend c then byNumber c
  else if isPrintable c then [c]
  else byNumber c

def escape (text : List Char) : List Char := text.flatMap escapeChar

def encode (text : List Char) : List Char := '"' :: escape text ++ ['"']

end Lexicon.Quoted

namespace Lexicon

/-- A text between quotes. -/
def quoted (text : String) : String := String.ofList (Quoted.encode text.toList)

end Lexicon

import Lexicon.Unicode.Category
import Lexicon.Unicode.PropertyTable
import Lexicon.Unicode.Script

/-! Named sets of characters: properties, categories and scripts. -/
namespace Lexicon.Unicode

def isBlank (c : Char) : Bool :=
  let n := c.toNat
  (9 ≤ n && n ≤ 13) || n == 0x20 || n == 0x85 || n == 0xA0 || n == 0x1680 ||
    (0x2000 ≤ n && n ≤ 0x200A) || n == 0x2028 || n == 0x2029 || n == 0x202F || n == 0x205F ||
    n == 0x3000

def isAlphabetic (c : Char) : Bool :=
  if c.toNat < 128 then c.isAlpha
  else
    let category := Category.ofChar c
    category.isLetter || category == .letterNumber || insideEdges otherAlphabeticEdges c.toNat

def isNumeric (c : Char) : Bool :=
  if c.toNat < 128 then c.isDigit else (Category.ofChar c).isNumber

def isDecimal (c : Char) : Bool :=
  if c.toNat < 128 then c.isDigit else Category.ofChar c == .decimalNumber

def isJoinControl (c : Char) : Bool :=
  c.toNat == 0x200C || c.toNat == 0x200D

/-- A word is made of letters, marks, decimal digits, connecting punctuation and joiners. -/
def isWordChar (c : Char) : Bool :=
  if c.toNat < 128 then c.isAlphanum || c == '_'
  else
    let category := Category.ofChar c
    isAlphabetic c || category.isMark || category == .decimalNumber ||
      category == .connectorPunctuation || isJoinControl c

def isLowercase (c : Char) : Bool :=
  Category.ofChar c == .lowercaseLetter || insideEdges otherLowercaseEdges c.toNat

def isUppercase (c : Char) : Bool :=
  Category.ofChar c == .uppercaseLetter || insideEdges otherUppercaseEdges c.toNat

def isGraphemeExtend (c : Char) : Bool :=
  if c.toNat < 128 then false
  else
    let category := Category.ofChar c
    category == .nonspacingMark || category == .enclosingMark ||
      insideEdges otherGraphemeExtendEdges c.toNat

/-- Controls, formats, separators other than the space, and code points without a character have
no glyph of their own. -/
def isPrintable (c : Char) : Bool :=
  if c.toNat < 128 then 0x20 ≤ c.toNat && c.toNat < 0x7F
  else
    let category := Category.ofChar c
    !category.isOther && !category.isSeparator

def isHexDigit (c : Char) : Bool :=
  c.isDigit || ('a' ≤ c && c ≤ 'f') || ('A' ≤ c && c ≤ 'F')

/-- Where the blanks behind ASCII and the joiners start and stop. -/
def bounds : List Nat :=
  [0x85, 0x86, 0xA0, 0xA1, 0x1680, 0x1681, 0x2000, 0x200B, 0x200C, 0x200E, 0x2028, 0x202A, 0x202F, 0x2030, 0x205F,
    0x2060, 0x3000, 0x3001]

/-- The code points where what is said of characters in this module may change: where a run or a range of
a table starts or stops, the bounds that are in no table, and every code point up to the end of ASCII. -/
def turns : List Nat :=
  (List.range 129 ++ bounds ++ categoryRuns.toList.map (· / 256) ++ scriptRuns.toList.map (· / 256) ++
    otherAlphabeticEdges.toList ++ otherGraphemeExtendEdges.toList ++ otherLowercaseEdges.toList ++
    otherUppercaseEdges.toList).mergeSort

/-- Why a name gives no set of characters. -/
inductive LookupError where
  | unknownName
  | unknownValue
  deriving DecidableEq, Repr

/-- A named set of characters. -/
inductive Property where
  | any | assigned | ascii
  | alphabetic | lowercase | uppercase | whiteSpace | joinControl | graphemeExtend | asciiHexDigit
  | category (group : CategoryGroup)
  | script (script : Script)
  deriving DecidableEq, Repr

namespace Property

def contains : Property → Char → Bool
  | any, _ => true
  | assigned, c => Category.ofChar c != .unassigned
  | ascii, c => c.toNat < 128
  | alphabetic, c => isAlphabetic c
  | lowercase, c => isLowercase c
  | uppercase, c => isUppercase c
  | whiteSpace, c => isBlank c
  | joinControl, c => isJoinControl c
  | graphemeExtend, c => isGraphemeExtend c
  | asciiHexDigit, c => isHexDigit c
  | category (.one .decimalNumber), c => isDecimal c
  | category group, c => group.includes (Category.ofChar c)
  | script s, c => s.contains c

/-- Names are compared in lower case, without blanks, hyphens, underscores and a leading "is". -/
def normalizeName (name : String) : String :=
  let cs := name.toList
  let (strip, cs) := match cs with
    | a :: b :: rest => if a.toLower == 'i' && b.toLower == 's' then (true, rest) else (false, cs)
    | _ => (false, cs)
  let kept := (cs.filter fun c => c ≠ ' ' ∧ c ≠ '_' ∧ c ≠ '-' ∧ c.toNat < 128).map Char.toLower
  if strip && kept == ['c'] then "isc" else String.ofList kept

/-- The property of a normalized name that stands for a yes-or-no question. Only some of these names are known
here: those of identifiers, emoji, dashes and others are left out. -/
def ofBinaryName? : String → Option Property
  | "alphabetic" | "alpha" => some alphabetic
  | "lowercase" | "lower" => some lowercase
  | "uppercase" | "upper" => some uppercase
  | "whitespace" | "wspace" | "space" => some whiteSpace
  | "joincontrol" | "joinc" => some joinControl
  | "graphemeextend" | "grext" => some graphemeExtend
  | "asciihexdigit" | "ahex" => some asciiHexDigit
  | _ => none

/-- The set of categories of a normalized name. -/
def ofCategoryName? (name : String) : Option Property :=
  match name with
  | "any" => some any
  | "assigned" => some assigned
  | "ascii" => some ascii
  | name => (CategoryGroup.ofName? name).map category

/-- Looks a single name up: first as a property, then as a category, then as a script. -/
def ofName? (name : String) : Option Property :=
  let name := normalizeName name
  (ofBinaryName? name).or <| (ofCategoryName? name).or <| (Script.ofName? name).map script

/-- Looks up a value of the category or of the script property. Ages, breaks of text and the extensions of
scripts are not known here. -/
def ofNameAndValue (name value : String) : Except LookupError Property :=
  let value := normalizeName value
  match normalizeName name with
  | "generalcategory" | "gc" | "category" => (ofCategoryName? value).elim (.error .unknownValue) .ok
  | "script" | "sc" => ((Script.ofName? value).map script).elim (.error .unknownValue) .ok
  | _ => .error .unknownName

end Property
end Lexicon.Unicode

import Lexicon.Unicode.CategoryTable
import Lexicon.Unicode.SortedTable

/-! The general category of a character, and the names of categories and of their groups. -/
namespace Lexicon.Unicode

inductive Category where
  | uppercaseLetter | lowercaseLetter | titlecaseLetter | modifierLetter | otherLetter
  | nonspacingMark | spacingMark | enclosingMark
  | decimalNumber | letterNumber | otherNumber
  | connectorPunctuation | dashPunctuation | openPunctuation | closePunctuation
  | initialPunctuation | finalPunctuation | otherPunctuation
  | mathSymbol | currencySymbol | modifierSymbol | otherSymbol
  | spaceSeparator | lineSeparator | paragraphSeparator
  | control | format | surrogate | privateUse | unassigned
  deriving DecidableEq, Repr

namespace Category

/-- Every category, in the order of the table's ranks. -/
def all : Array Category := #[
  .uppercaseLetter, .lowercaseLetter, .titlecaseLetter, .modifierLetter, .otherLetter,
  .nonspacingMark, .spacingMark, .enclosingMark,
  .decimalNumber, .letterNumber, .otherNumber,
  .connectorPunctuation, .dashPunctuation, .openPunctuation, .closePunctuation,
  .initialPunctuation, .finalPunctuation, .otherPunctuation,
  .mathSymbol, .currencySymbol, .modifierSymbol, .otherSymbol,
  .spaceSeparator, .lineSeparator, .paragraphSeparator,
  .control, .format, .surrogate, .privateUse, .unassigned]

def ofChar (c : Char) : Category :=
  all.getD (runMark categoryRuns c.toNat) .unassigned

def isLetter : Category → Bool
  | uppercaseLetter | lowercaseLetter | titlecaseLetter | modifierLetter | otherLetter => true
  | _ => false

def isMark : Category → Bool
  | nonspacingMark | spacingMark | enclosingMark => true
  | _ => false

def isNumber : Category → Bool
  | decimalNumber | letterNumber | otherNumber => true
  | _ => false

def isPunctuation : Category → Bool
  | connectorPunctuation | dashPunctuation | openPunctuation | closePunctuation
  | initialPunctuation | finalPunctuation | otherPunctuation => true
  | _ => false

def isSymbol : Category → Bool
  | mathSymbol | currencySymbol | modifierSymbol | otherSymbol => true
  | _ => false

def isSeparator : Category → Bool
  | spaceSeparator | lineSeparator | paragraphSeparator => true
  | _ => false

def isOther : Category → Bool
  | control | format | surrogate | privateUse | unassigned => true
  | _ => false

end Category

/-- A set of categories that has a name of its own. -/
inductive CategoryGroup where
  | one (category : Category)
  | casedLetter | letter | mark | number | punctuation | symbol | separator | other
  deriving DecidableEq, Repr

namespace CategoryGroup

def includes : CategoryGroup → Category → Bool
  | one category, c => c == category
  | casedLetter, c => c == .uppercaseLetter || c == .lowercaseLetter || c == .titlecaseLetter
  | letter, c => c.isLetter
  | mark, c => c.isMark
  | number, c => c.isNumber
  | punctuation, c => c.isPunctuation
  | symbol, c => c.isSymbol
  | separator, c => c.isSeparator
  | other, c => c.isOther

/-- Reads a normalized name: lower case, without blanks, hyphens and underscores. -/
def ofName? : String → Option CategoryGroup
  | "lu" | "uppercaseletter" => some (one .uppercaseLetter)
  | "ll" | "lowercaseletter" => some (one .lowercaseLetter)
  | "lt" | "titlecaseletter" => some (one .titlecaseLetter)
  | "lm" | "modifierletter" => some (one .modifierLetter)
  | "lo" | "otherletter" => some (one .otherLetter)
  | "mn" | "nonspacingmark" => some (one .nonspacingMark)
  | "mc" | "spacingmark" => some (one .spacingMark)
  | "me" | "enclosingmark" => some (one .enclosingMark)
  | "nd" | "decimalnumber" | "digit" => some (one .decimalNumber)
  | "nl" | "letternumber" => some (one .letterNumber)
  | "no" | "othernumber" => some (one .otherNumber)
  | "pc" | "connectorpunctuation" => some (one .connectorPunctuation)
  | "pd" | "dashpunctuation" => some (one .dashPunctuation)
  | "ps" | "openpunctuation" => some (one .openPunctuation)
  | "pe" | "closepunctuation" => some (one .closePunctuation)
  | "pi" | "initialpunctuation" => some (one .initialPunctuation)
  | "pf" | "finalpunctuation" => some (one .finalPunctuation)
  | "po" | "otherpunctuation" => some (one .otherPunctuation)
  | "sm" | "mathsymbol" => some (one .mathSymbol)
  | "sc" | "currencysymbol" => some (one .currencySymbol)
  | "sk" | "modifiersymbol" => some (one .modifierSymbol)
  | "so" | "othersymbol" => some (one .otherSymbol)
  | "zs" | "spaceseparator" => some (one .spaceSeparator)
  | "zl" | "lineseparator" => some (one .lineSeparator)
  | "zp" | "paragraphseparator" => some (one .paragraphSeparator)
  | "cc" | "control" | "cntrl" => some (one .control)
  | "cf" | "format" => some (one .format)
  | "co" | "privateuse" => some (one .privateUse)
  | "cn" | "unassigned" => some (one .unassigned)
  | "lc" | "casedletter" => some casedLetter
  | "l" | "letter" => some letter
  | "m" | "mark" | "combiningmark" => some mark
  | "n" | "number" => some number
  | "p" | "punctuation" | "punct" => some punctuation
  | "s" | "symbol" => some symbol
  | "z" | "separator" => some separator
  | "c" | "other" => some other
  | _ => none

end CategoryGroup
end Lexicon.Unicode

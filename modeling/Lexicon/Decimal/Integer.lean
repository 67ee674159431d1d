/-! Integers written in decimal digits, with a sign or without, within bounds. -/
namespace Lexicon.Decimal

/-- Why a text is no integer within the bounds. -/
inductive IntegerFault where
  | empty
  | invalidDigit
  | tooLarge
  | tooSmall
  deriving DecidableEq, Repr

def IntegerFault.message : IntegerFault → String
  | empty => "cannot parse integer from empty string"
  | invalidDigit => "invalid digit found in string"
  | tooLarge => "number too large to fit in target type"
  | tooSmall => "number too small to fit in target type"

/-- Reads digits behind those read so far. The first digit that takes the number over the limit, or that is
no digit, is the fault. -/
def digits (limit : Nat) (fault : IntegerFault) (read : Nat) : List Char → Except IntegerFault Nat
  | [] => .ok read
  | c :: rest =>
    if c.isDigit then
      let read := 10 * read + (c.toNat - '0'.toNat)
      if limit < read then .error fault else digits limit fault read rest
    else .error .invalidDigit

/-- Digits, of which there has to be one. -/
def digits1 (limit : Nat) (fault : IntegerFault) : List Char → Except IntegerFault Nat
  | [] => .error .invalidDigit
  | text => digits limit fault 0 text

/-- A number up to the limit. A plus sign may stand in front. -/
def readNat (limit : Nat) : List Char → Except IntegerFault Nat
  | [] => .error .empty
  | '+' :: text => digits1 limit .tooLarge text
  | text => digits1 limit .tooLarge text

/-- A number from `-limit` up to but not including `limit`. -/
def readInt (limit : Nat) : List Char → Except IntegerFault Int
  | [] => .error .empty
  | '-' :: text => (digits1 limit .tooSmall text).map fun n => -(n : Int)
  | '+' :: text => (digits1 (limit - 1) .tooLarge text).map Int.ofNat
  | text => (digits1 (limit - 1) .tooLarge text).map Int.ofNat

end Lexicon.Decimal

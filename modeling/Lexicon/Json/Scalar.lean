import Lexicon.Decimal.Binary64
import Lexicon.Json.Tape

/-! Strings, numbers and words of a JSON text. -/
namespace Lexicon.Json
open Lexicon.Decimal (Binary64)

/-- Integers of 64 bits are kept; other numbers are rounded. -/
inductive Number where
  | integer (value : Int)
  | real (negative : Bool) (magnitude : Binary64)
  deriving DecidableEq, Repr

namespace Number

def text : Number → String
  | integer value => toString value
  | real negative magnitude => (if negative then "-" else "") ++ magnitude.text

/-- The number as something that was found where it does not belong. -/
def found : Number → String
  | n@(integer _) => "integer `" ++ n.text ++ "`"
  | n@(real _ _) => "floating point `" ++ n.text ++ "`"

end Number

def hexDigit? (c : Char) : Option Nat :=
  if c.isDigit then some (c.toNat - 48)
  else if 'a' ≤ c ∧ c ≤ 'f' then some (c.toNat - 87)
  else if 'A' ≤ c ∧ c ≤ 'F' then some (c.toNat - 55)
  else none

/-- The place `count` bytes further on, which may be inside a character. -/
def Tape.skipBytes (t : Tape) : (count : Nat) → List Char → Tape
  | count, x :: rest =>
    if count = 0 then { t with rest := x :: rest }
    else if x = '\n' then Tape.skipBytes { t with line := t.line + 1, column := 0 } (count - 1) rest
    else if x.utf8Size ≤ count then
      Tape.skipBytes { t with column := t.column + x.utf8Size } (count - x.utf8Size) rest
    else { t with rest, column := t.column + count }
  | _, [] => { t with rest := [] }

namespace Tape

/-- Four hexadecimal digits. -/
def hex4 (t : Tape) : Except Error (Nat × Tape) :=
  if utf8Length (t.rest.take 4) < 4 then (t.skip 4).fail .endInString
  else match t.rest.take 4 |>.mapM hexDigit? with
    | some [a, b, d, e] => .ok (((a * 16 + b) * 16 + d) * 16 + e, t.skip 4)
    | _ => (t.skipBytes 4 t.rest).fail .invalidEscape

/-- The character of a code unit after `\u`. Characters outside of the basic plane are written as two
code units, both escaped. -/
def unicodeEscape (t : Tape) : Except Error (Char × Tape) :=
  match t.hex4 with
  | .error e => .error e
  | .ok (unit, t1) =>
    if 0xDC00 ≤ unit ∧ unit ≤ 0xDFFF then t1.fail .loneSurrogate
    else if unit < 0xD800 ∨ 0xDBFF < unit then .ok (Char.ofNat unit, t1)
    else match t1.rest with
      | [] => t1.fail .endInString
      | '\\' :: [] => t1.next.fail .endInString
      | '\\' :: 'u' :: _ =>
        match (t1.skip 2).hex4 with
        | .error e => .error e
        | .ok (second, t2) =>
          if 0xDC00 ≤ second ∧ second ≤ 0xDFFF then
            .ok (Char.ofNat ((unit - 0xD800) * 1024 + (second - 0xDC00) + 0x10000), t2)
          else t2.fail .loneSurrogate
      | '\\' :: _ => t1.next.failAhead .unexpectedEndOfHexEscape
      | _ => t1.failAhead .unexpectedEndOfHexEscape

def escapeNamed? : Char → Option Char
  | '"' => some '"'
  | '\\' => some '\\'
  | '/' => some '/'
  | 'b' => some '\x08'
  | 'f' => some '\x0c'
  | 'n' => some '\n'
  | 'r' => some '\r'
  | 't' => some '\t'
  | _ => none

/-- What follows a backslash. -/
def escape (t : Tape) : Except Error (Char × Tape) :=
  match t.rest with
  | [] => t.fail .endInString
  | 'u' :: _ => t.next.unicodeEscape
  | x :: _ =>
    match escapeNamed? x with
    | some y => .ok (y, t.next)
    | none => t.failAhead .invalidEscape

/-- The characters of a string up to its closing quote, which is passed over. -/
def stringBody : (steps : Nat) → Tape → Except Error (List Char × Tape)
  | 0, t => t.fail .endInString
  | steps + 1, t =>
    match t.rest with
    | [] => t.fail .endInString
    | '"' :: _ => .ok ([], t.next)
    | '\\' :: _ =>
      match t.next.escape with
      | .error e => .error e
      | .ok (x, t') =>
        match stringBody steps t' with
        | .error e => .error e
        | .ok (xs, t'') => .ok (x :: xs, t'')
    | x :: _ =>
      if x.toNat < 0x20 then t.next.fail .controlCharacter
      else match stringBody steps t.next with
        | .error e => .error e
        | .ok (xs, t') => .ok (x :: xs, t')

/-- A string; the tape stands at its opening quote. -/
def string (t : Tape) : Except Error (String × Tape) :=
  (stringBody (t.rest.length + 1) t.next).map fun (cs, t') => (String.ofList cs, t')

/-- The rest of a word such as `null`, of which the first letter is passed over. -/
def word : List Char → Tape → Except Error Tape
  | [], t => .ok t
  | x :: more, t =>
    match t.rest with
    | [] => t.fail .endInValue
    | y :: _ => if x = y then word more t.next else t.failAhead .expectedIdent

/-- The digits from here on. -/
def digits (t : Tape) : List Char × Tape :=
  let ds := t.rest.takeWhile Char.isDigit
  (ds, t.skip ds.length)

def natOf (ds : List Char) : Nat := ds.foldl (fun n d => n * 10 + (d.toNat - 48)) 0

/-- As many of the digits as fit in 64 bits, and how many are left over. -/
def fitDigits (value : Nat) : List Char → Nat × Nat
  | [] => (value, 0)
  | d :: rest =>
    let bigger := value * 10 + (d.toNat - 48)
    if bigger < 0x10000000000000000 then fitDigits bigger rest else (value, rest.length + 1)

def real (negative : Bool) (significand : Nat) (exponent : Int) (t : Tape) :
    Except Error (Number × Tape) :=
  match Binary64.ofParts significand exponent with
  | some x => .ok (.real negative x, t)
  | none => t.fail .numberOutOfRange

/-- The part of a number from its exponent letter on; `exponent` is the power of ten so far. An exponent
of more than 31 bits makes the number zero or too large. -/
def exponentPart (negative : Bool) (significand : Nat) (exponent : Int) (t : Tape) :
    Except Error (Number × Tape) :=
  let t1 := t.next
  let down := t1.rest.head? == some '-'
  let t2 := if down || t1.rest.head? == some '+' then t1.next else t1
  match t2.rest with
  | [] => t2.fail .endInValue
  | x :: _ =>
    if !x.isDigit then t2.failAhead .invalidNumber
    else
      let (ds, t3) := t2.digits
      let size := natOf ds
      if size < 0x80000000 then
        real negative significand (if down then exponent - size else exponent + size) t3
      else if significand ≠ 0 ∧ !down then
        let fitting := (List.range ds.length).find? fun n => 0x80000000 ≤ natOf (ds.take (n + 1))
        (skip (fitting.getD 0 + 1) t2).fail .numberOutOfRange
      else .ok (.real negative .zero, t3)

/-- The part of a number from its point on. Digits that do not fit count for nothing. -/
def fractionPart (negative : Bool) (significand : Nat) (exponent : Int) (t : Tape) :
    Except Error (Number × Tape) :=
  let (ds, t1) := t.next.digits
  if ds.isEmpty then
    if t1.rest.isEmpty then t1.fail .endInValue else t1.failAhead .invalidNumber
  else
    let (value, left) := fitDigits significand ds
    let exponent := exponent - (ds.length - left : Nat)
    match t1.rest with
    | 'e' :: _ | 'E' :: _ => exponentPart negative value exponent t1
    | _ => real negative value exponent t1

/-- A number, of which the sign is passed over. -/
def number (negative : Bool) (t : Tape) : Except Error (Number × Tape) :=
  match t.rest with
  | [] => t.fail .endInValue
  | x :: rest =>
    if !x.isDigit then t.failAhead .invalidNumber
    else if x = '0' ∧ rest.head?.any Char.isDigit then t.next.failAhead .invalidNumber
    else
      let (ds, t1) := t.digits
      let (value, left) := fitDigits 0 ds
      match t1.rest with
      | '.' :: _ => fractionPart negative value left t1
      | 'e' :: _ | 'E' :: _ => exponentPart negative value left t1
      | _ =>
        if left ≠ 0 then real negative value left t1
        else if !negative then .ok (.integer value, t1)
        else if value = 0 ∨ 0x8000000000000000 < value then real true value 0 t1
        else .ok (.integer (-value), t1)

end Tape
end Lexicon.Json

/-! Binary fractions of 53 digits: the numbers that a decimal number is rounded to. -/
namespace Lexicon.Decimal

/-- The number `mantissa · 2 ^ exponent`. The mantissa has 53 binary digits, fewer only at the smallest
exponent. -/
structure Binary64 where
  mantissa : Nat
  exponent : Int
  deriving DecidableEq, Repr

namespace Binary64

def leastExponent : Int := -1074

def greatestExponent : Int := 971

def zero : Binary64 := ⟨0, leastExponent⟩

/-- The quotient, rounded to the nearest integer, a half to the even one. -/
def roundQuotient (num den : Nat) : Nat :=
  let q := num / den
  let r := num % den
  if 2 * r < den then q
  else if den < 2 * r then q + 1
  else if q % 2 = 0 then q else q + 1

/-- The numerator and the denominator of `num / (den · 2 ^ exponent)`. -/
def scale (num den : Nat) (exponent : Int) : Nat × Nat :=
  if 0 ≤ exponent then (num, den * Nat.pow 2 exponent.toNat)
  else (num * Nat.pow 2 (-exponent).toNat, den)

/-- The nearest number to a quotient; none if it is too large. -/
def ofQuotient (num den : Nat) : Option Binary64 :=
  if num = 0 then some zero
  else
    let wide : Int := (num.log2 : Int) - den.log2 - 52
    let (n, d) := scale num den wide
    let exponent := max leastExponent (if n / d < 0x10000000000000 then wide - 1 else wide)
    let (n, d) := scale num den exponent
    let m := roundQuotient n d
    let rounded : Binary64 :=
      if m = 0x20000000000000 then ⟨0x10000000000000, exponent + 1⟩ else ⟨m, exponent⟩
    if greatestExponent < rounded.exponent then none else some rounded

/-- The number as a quotient. -/
def quotient (x : Binary64) : Nat × Nat :=
  if 0 ≤ x.exponent then (x.mantissa * Nat.pow 2 x.exponent.toNat, 1)
  else (x.mantissa, Nat.pow 2 (-x.exponent).toNat)

/-- The product, rounded. -/
def mul (x y : Binary64) : Option Binary64 :=
  ofQuotient (x.quotient.1 * y.quotient.1) (x.quotient.2 * y.quotient.2)

/-- The quotient, rounded. -/
def div (x y : Binary64) : Option Binary64 :=
  ofQuotient (x.quotient.1 * y.quotient.2) (x.quotient.2 * y.quotient.1)

/-- The rounded power of ten, for exponents up to 308. -/
def pow10 (n : Nat) : Binary64 := (ofQuotient (Nat.pow 10 n) 1).getD zero

/-- A number by its digits and decimal exponent, rounded at each step: the digits first, then the product
with or the quotient by a rounded power of ten of at most 308. None if it is too large. -/
def ofParts (digits : Nat) (exponent : Int) : Option Binary64 :=
  match ofQuotient digits 1 with
  | none => none
  | some x => go 4 x exponent
where
  go : (rounds : Nat) → Binary64 → Int → Option Binary64
    | 0, _, _ => some zero
    | rounds + 1, x, exponent =>
      if exponent.natAbs ≤ 308 then
        if 0 ≤ exponent then x.mul (pow10 exponent.toNat) else x.div (pow10 exponent.natAbs)
      else if x.mantissa = 0 then some x
      else if 0 ≤ exponent then none
      else match x.div (pow10 308) with
        | none => none
        | some y => go rounds y (exponent + 308)

/-- The place of the first decimal digit of a positive quotient. -/
def leadingPlace (num den : Nat) : Int :=
  let guess : Int := ((Nat.toDigits 10 num).length : Int) - (Nat.toDigits 10 den).length
  let below := if 0 ≤ guess then num < den * Nat.pow 10 guess.toNat
    else num * Nat.pow 10 (-guess).toNat < den
  if below then guess - 1 else guess

/-- Whether `digits · 10 ^ place` rounds to the number: it lies between the middles to the two
neighbours, and at a middle only if the mantissa is even. -/
def absorbs (x : Binary64) (digits : Nat) (place : Int) : Bool :=
  let low := if x.mantissa = 0x10000000000000 ∧ leastExponent < x.exponent then 4 * x.mantissa - 1
    else 4 * x.mantissa - 2
  let high := 4 * x.mantissa + 2
  -- both sides as multiples of `2 ^ (exponent - 2) · 10 ^ place` or of their inverses
  let two := x.exponent - 2
  let value := digits * (if 0 ≤ place then Nat.pow 10 place.toNat else 1) *
    (if two < 0 then Nat.pow 2 (-two).toNat else 1)
  let unit := (if 0 ≤ two then Nat.pow 2 two.toNat else 1) *
    (if place < 0 then Nat.pow 10 (-place).toNat else 1)
  if x.mantissa % 2 = 0 then low * unit ≤ value && value ≤ high * unit
  else low * unit < value && value < high * unit

/-- The fewest digits that round to a positive number, the nearest of those, and their last place. -/
def shortest (x : Binary64) : Nat × Int :=
  let (num, den) := x.quotient
  let lead := leadingPlace num den
  let candidate (count : Nat) : Option (Nat × Int) :=
    let place := lead - (count : Int)
    let (n, d) := if 0 ≤ place then (num, den * Nat.pow 10 place.toNat)
      else (num * Nat.pow 10 (-place).toNat, den)
    let near := roundQuotient n d
    let far := if near = n / d then near + 1 else n / d
    if x.absorbs near place then some (near, place)
    else if x.absorbs far place then some (far, place)
    else none
  ((List.range 17).findSome? candidate).getD (num / den, 0)

/-- Without zeros at the end. -/
def trim : (steps : Nat) → Nat × Int → Nat × Int
  | 0, d => d
  | steps + 1, (digits, place) =>
    if digits ≠ 0 ∧ digits % 10 = 0 then trim steps (digits / 10, place + 1) else (digits, place)

/-- The decimal text: with a point while the exponent is from -5 to 15, else with an exponent of a
sign and at least two digits. -/
def text (x : Binary64) : String :=
  if x.mantissa = 0 then "0.0"
  else
    let (digits, place) := trim 17 x.shortest
    let ds := Nat.toDigits 10 digits
    let exponent := place + ds.length - 1
    let fraction (cs : List Char) : List Char := if cs.isEmpty then ['0'] else cs
    if 0 ≤ exponent ∧ exponent < 16 then
      let whole := exponent.toNat + 1
      let padded := ds ++ List.replicate (whole - ds.length) '0'
      String.ofList (padded.take whole ++ ['.'] ++ fraction (padded.drop whole))
    else if -5 ≤ exponent ∧ exponent < 0 then
      String.ofList (['0', '.'] ++ List.replicate ((-exponent).toNat - 1) '0' ++ ds)
    else
      let power := Nat.toDigits 10 exponent.natAbs
      let power := if power.length < 2 then '0' :: power else power
      let point := if ds.length = 1 then ds else ds.take 1 ++ ['.'] ++ ds.drop 1
      String.ofList (point ++ ['e', if exponent < 0 then '-' else '+'] ++ power)

end Binary64
end Lexicon.Decimal

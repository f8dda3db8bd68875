/-!
Decimal numbers and the numbers of the format binary64. `Binary64.ofDecimal` rounds a decimal number to the nearest
number of the format, and `Binary64.shortest` finds the decimal number with the fewest digits that rounds back to it.
Everything is done in exact arithmetic.
-/

set_option autoImplicit false

namespace Companion

/-- The number `digits * 10 ^ exponent`. -/
structure Decimal where
  digits : Nat
  exponent : Int
  deriving DecidableEq, Repr

namespace Decimal

structure Ratio where
  above : Nat
  below : Nat
  deriving DecidableEq, Repr

namespace Ratio

/-- A fraction multiplied by a power, whose exponent may be negative. -/
def scale (ratio : Ratio) (base : Nat) (exponent : Int) : Ratio :=
  match exponent with
  | .ofNat n => ⟨ratio.above * Nat.pow base n, ratio.below⟩
  | .negSucc n => ⟨ratio.above, ratio.below * Nat.pow base (n + 1)⟩

def isLess (left right : Ratio) : Bool := left.above * right.below < right.above * left.below

/-- The nearest natural number, and of two equally near ones the even one. -/
def round (ratio : Ratio) : Nat :=
  let whole := ratio.above / ratio.below
  let twice := 2 * (ratio.above % ratio.below)
  if twice < ratio.below then whole
  else if ratio.below < twice then whole + 1
  else whole + whole % 2

def distance (left right : Ratio) : Ratio :=
  let a := left.above * right.below
  let b := right.above * left.below
  ⟨max a b - min a b, left.below * right.below⟩

end Ratio

def toRatio (number : Decimal) : Ratio :=
  Ratio.scale ⟨number.digits, 1⟩ 10 number.exponent

/-- The number without zeros at the end of its digits. `limit` bounds how many are taken off. -/
def trimWithin : Nat → Decimal → Decimal
  | 0, number => number
  | limit + 1, number =>
      if number.digits != 0 && number.digits % 10 == 0 then
        trimWithin limit ⟨number.digits / 10, number.exponent + 1⟩
      else number

/-- The number in positional notation, without a point if it is whole. -/
def render (number : Decimal) : String :=
  let digits := Nat.toDigits 10 number.digits
  let text := match number.exponent with
    | .ofNat n => digits ++ List.replicate n '0'
    | .negSucc n =>
        let places := n + 1
        let padded := List.replicate (places + 1 - digits.length) '0' ++ digits
        let whole := padded.length - places
        padded.take whole ++ '.' :: padded.drop whole
  String.ofList text

end Decimal

/-- The positive number `mantissa * 2 ^ exponent`, or zero. -/
structure Binary64 where
  mantissa : Nat
  exponent : Int
  deriving DecidableEq, Repr

namespace Binary64

def leastExponent : Int := -1074

def greatestExponent : Int := 971

def leastMantissa : Nat := 0x10000000000000

/-- The exponent at which a fraction has a mantissa of full length. -/
def exponentOf (ratio : Decimal.Ratio) : Int :=
  let low : Int := (Nat.log2 ratio.above : Int) - (Nat.log2 ratio.below : Int) - 53
  let atLow := ratio.scale 2 (-low)
  let fitting := if atLow.above / atLow.below < 2 * leastMantissa then low else low + 1
  max leastExponent fitting

/-- The number nearest to a fraction; none if that is beyond the greatest number. -/
def nearest (ratio : Decimal.Ratio) : Option Binary64 :=
  let exponent := exponentOf ratio
  let mantissa := (ratio.scale 2 (-exponent)).round
  let number : Binary64 :=
    if mantissa < 2 * leastMantissa then ⟨mantissa, exponent⟩ else ⟨leastMantissa, exponent + 1⟩
  if greatestExponent < number.exponent then none else some number

/-- Decimal exponents beyond which every number is too great or is rounded to zero. -/
def decimalRange : Int := 400

/-- The number nearest to a decimal number; none if that is beyond the greatest number. -/
def ofDecimal (number : Decimal) : Option Binary64 :=
  let size : Int := (Nat.toDigits 10 number.digits).length + number.exponent
  if number.digits == 0 || size < -decimalRange then some ⟨0, leastExponent⟩
  else if decimalRange < size then none
  else nearest number.toRatio

def toRatio (number : Binary64) : Decimal.Ratio :=
  Decimal.Ratio.scale ⟨number.mantissa, 1⟩ 2 number.exponent

def stretch (number : Binary64) : Decimal.Ratio × Decimal.Ratio :=
  let below := if number.mantissa == leastMantissa && number.exponent != leastExponent then 1 else 2
  (Decimal.Ratio.scale ⟨4 * number.mantissa - below, 4⟩ 2 number.exponent,
    Decimal.Ratio.scale ⟨4 * number.mantissa + 2, 4⟩ 2 number.exponent)

/-- Whether a decimal number rounds to a number. The ends of the stretch count if the mantissa is even. -/
def isRounded (number : Binary64) (candidate : Decimal) : Bool :=
  let (low, high) := number.stretch
  let value := candidate.toRatio
  if number.mantissa % 2 == 0 then !value.isLess low && !high.isLess value
  else low.isLess value && value.isLess high

/-- The decimal exponent of the first digit of a fraction, counted so that one has the exponent zero. -/
def leadingExponent (ratio : Decimal.Ratio) : Int :=
  let guess : Int :=
    (Nat.toDigits 10 ratio.above).length - (Nat.toDigits 10 ratio.below).length
  if ratio.isLess (Decimal.Ratio.scale ⟨1, 1⟩ 10 guess) then guess - 1 else guess

def ofLength? (number : Binary64) (length : Nat) : Option Decimal :=
  let value := number.toRatio
  let exponent := leadingExponent value - length + 1
  let scaled := value.scale 10 (-exponent)
  let below : Decimal := ⟨scaled.above / scaled.below, exponent⟩
  let above : Decimal := ⟨below.digits + 1, exponent⟩
  match number.isRounded below, number.isRounded above with
  | true, true =>
      if (above.toRatio.distance value).isLess (below.toRatio.distance value) then some above else some below
  | true, false => some below
  | false, true => some above
  | false, false => none

def mostDigits : Nat := 17

/-- The decimal number with the fewest digits that rounds to a number, and of those the nearest. -/
def shortest (number : Binary64) : Decimal :=
  if number.mantissa == 0 then ⟨0, 0⟩
  else
    match (List.range mostDigits).findSome? fun n => number.ofLength? (n + 1) with
    | some found => Decimal.trimWithin mostDigits found
    | none => ⟨0, 0⟩

def render (number : Binary64) : String :=
  let text := number.shortest.render
  if text.toList.contains '.' then text else text ++ ".0"

end Binary64

end Companion

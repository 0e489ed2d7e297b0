import BinaryRecords.Ieee

/-!
# The shortest decimal of a binary number

A binary number is the only one of its format in an interval of rationals: those
that round to it.  Its shortest decimal is the decimal with the fewest digits in
that interval, the one nearest to the number where several have that few, and
the greater of two that are equally near.

The decimals with a given number of digits form a grid, on which only the two
neighbours of the number need to be tested.  A finite number is written as its
shortest decimal, always without an exponent, and a whole number without a point.
-/

namespace BinaryRecords

namespace Decimal

/-- A positive decimal: digits, and the place of the point counted from the
front of the digits. -/
structure Digits where
  digits : List Char
  point : Int
  deriving DecidableEq, Inhabited

/-- A positive rational with the bounds of the interval that rounds to it, as
three numerators over one denominator. -/
structure Interval where
  low : Nat
  value : Nat
  high : Nat
  denominator : Nat
  /-- Whether the bounds themselves belong to the interval. -/
  closed : Bool
  deriving DecidableEq, Inhabited

namespace Interval

/-- Whether a fraction belongs to the interval. -/
def holds (interval : Interval) (numerator denominator : Nat) : Bool :=
  let scaled := numerator * interval.denominator
  if interval.closed then
    interval.low * denominator ≤ scaled && scaled ≤ interval.high * denominator
  else
    interval.low * denominator < scaled && scaled < interval.high * denominator

/-- The number of digits before the point, negative by the number of zeros that
follow the point: the least power of ten that exceeds the value. -/
def magnitude (interval : Interval) : Int :=
  let whole := interval.value / interval.denominator
  if whole ≠ 0 then
    (Nat.toDigits 10 whole).length
  else
    let inverse := (interval.denominator + interval.value - 1) / interval.value
    1 - (Nat.toDigits 10 (inverse - 1)).length

/-- The decimal of the interval that is nearest to the value, among the
multiples of the given power of ten. -/
def nearestOnGrid? (interval : Interval) (power : Int) : Option Nat :=
  let numerator := Nat.pow 10 power.toNat
  let denominator := Nat.pow 10 (-power).toNat
  let scaledValue := interval.value * denominator
  let scaledUnit := interval.denominator * numerator
  let lower := scaledValue / scaledUnit
  let holdsLower := interval.holds (lower * numerator) denominator
  let holdsUpper := interval.holds ((lower + 1) * numerator) denominator
  if holdsLower && (!holdsUpper || 2 * scaledValue < (2 * lower + 1) * scaledUnit) then
    some lower
  else if holdsUpper then
    some (lower + 1)
  else
    none

/-- The decimal of the interval with the given number of digits. -/
def withDigits? (interval : Interval) (count : Nat) : Option Digits :=
  let power := interval.magnitude - count
  (interval.nearestOnGrid? power).map fun multiple =>
    let digits := Nat.toDigits 10 multiple
    ⟨(digits.reverse.dropWhile (· == '0')).reverse, digits.length + power⟩

/-- The shortest decimal of the interval; seventeen digits always suffice for a
number of 64 bits. -/
def shortest (interval : Interval) : Digits :=
  ((List.range 17).findSome? fun index => interval.withDigits? (index + 1)).getD
    ⟨['0'], 1⟩

end Interval

namespace Digits

/-- Write a decimal without an exponent, filling up with zeros on either side. -/
def positional (decimal : Digits) : List Char :=
  let point := decimal.point.toNat
  if decimal.point ≤ 0 then
    '0' :: '.' :: (List.replicate (-decimal.point).toNat '0' ++ decimal.digits)
  else if decimal.digits.length ≤ point then
    decimal.digits ++ List.replicate (point - decimal.digits.length) '0'
  else
    decimal.digits.take point ++ '.' :: decimal.digits.drop point

end Digits

end Decimal

namespace Binary64

/-- The interval of the rationals that round to a finite number other than zero,
regardless of its sign.  The neighbour below the least significand of a binade
is only half as far away as the one above. -/
def interval (number : Binary64) : Decimal.Interval :=
  let belowUnit := if number.fraction = 0 ∧ 1 < number.scale then 1 else 2
  let numerator := Nat.pow 2 (number.scale - 1077)
  { low := (4 * number.significand - belowUnit) * numerator
    value := 4 * number.significand * numerator
    high := (4 * number.significand + 2) * numerator
    denominator := Nat.pow 2 (1077 - number.scale)
    closed := number.significand % 2 == 0 }

def renderMagnitude (number : Binary64) : String :=
  if number.isInfinite then "inf"
  else if number.isZero then "0"
  else String.ofList number.interval.shortest.positional

def render (number : Binary64) : String :=
  if number.isNaN then "NaN"
  else if number.isNegative then "-" ++ number.renderMagnitude
  else number.renderMagnitude

end Binary64

end BinaryRecords

/-!
# Floating point numbers

A number is its bits: a sign, an exponent field and a fraction, of 11 and 52 bits
in a number of 64 bits and of 8 and 23 bits in one of 32.  The fields describe a
finite number exactly, as a natural significand times a power of two, and all
arithmetic here is on natural numbers.

Each number of 32 bits is also a number of 64 bits, and a number of 64 bits is
rounded to the nearest of 32 bits, to the one with the even fraction where two
are equally near.
-/

namespace BinaryRecords

/-- A floating point number of 64 bits. -/
structure Binary64 where
  bits : UInt64
  deriving DecidableEq, Inhabited

namespace Binary64

def isNegative (number : Binary64) : Bool :=
  0x8000000000000000 ≤ number.bits.toNat

def exponentField (number : Binary64) : Nat :=
  number.bits.toNat / 0x10000000000000 % 0x800

def fraction (number : Binary64) : Nat :=
  number.bits.toNat % 0x10000000000000

def isNaN (number : Binary64) : Bool :=
  number.exponentField == 2047 && number.fraction != 0

def isInfinite (number : Binary64) : Bool :=
  number.exponentField == 2047 && number.fraction == 0

def isZero (number : Binary64) : Bool :=
  number.exponentField == 0 && number.fraction == 0

def significand (number : Binary64) : Nat :=
  if number.exponentField = 0 then number.fraction else 0x10000000000000 + number.fraction

/-- The scale of a finite number, which is its significand times two to the
power of the scale less 1075. -/
def scale (number : Binary64) : Nat :=
  max number.exponentField 1

/-- Whether two numbers are equal as numbers: the two zeros are, and what is no
number equals nothing. -/
def sameNumber (first second : Binary64) : Bool :=
  !first.isNaN && !second.isNaN &&
    (first == second || (first.isZero && second.isZero))

end Binary64

/-- A floating point number of 32 bits. -/
structure Binary32 where
  bits : UInt32
  deriving DecidableEq, Inhabited

namespace Binary32

def isNegative (number : Binary32) : Bool :=
  0x80000000 ≤ number.bits.toNat

def exponentField (number : Binary32) : Nat :=
  number.bits.toNat / 0x800000 % 0x100

def fraction (number : Binary32) : Nat :=
  number.bits.toNat % 0x800000

/-- Whether the bits stand for no number. -/
def isNaN (number : Binary32) : Bool :=
  number.exponentField == 255 && number.fraction != 0

/-- The bits, without the sign, of the number of 64 bits with the same value. -/
def widenedMagnitude (number : Binary32) : Nat :=
  if number.exponentField = 255 then
    0x7FF0000000000000 + number.fraction * 0x20000000
  else if number.exponentField ≠ 0 then
    (number.exponentField + 896) * 0x10000000000000 + number.fraction * 0x20000000
  else if number.fraction = 0 then
    0
  else
    (number.fraction.log2 + 873) * 0x10000000000000 +
      number.fraction * Nat.pow 2 (52 - number.fraction.log2)

def widen (number : Binary32) : Binary64 :=
  ⟨UInt64.ofNat
    ((if number.isNegative then 0x8000000000000000 else 0) + number.widenedMagnitude)⟩

end Binary32

/-- The quotient of two natural numbers, rounded to the nearest, and to the even
one where two are equally near. -/
def divideToNearest (dividend divisor : Nat) : Nat :=
  let quotient := dividend / divisor
  let doubled := 2 * (dividend % divisor)
  if doubled < divisor then quotient
  else if divisor < doubled then quotient + 1
  else quotient + quotient % 2

namespace Binary64

/-- The bits, without the sign, of the nearest number of 32 bits.  The unit of
the result is a power of two whose exponent exceeds that of the least unit,
which is the power -149, by `excess`. -/
def narrowedMagnitude (number : Binary64) : Nat :=
  if number.isNaN then
    0x7FC00000
  else if number.isInfinite then
    0x7F800000
  else
    let excess := number.significand.log2 + number.scale - (1075 + 23 - 149)
    let rounded :=
      divideToNearest (number.significand * Nat.pow 2 number.scale)
        (Nat.pow 2 (excess + (1075 - 149)))
    min (excess * 0x800000 + rounded) 0x7F800000

/-- The nearest number of 32 bits. -/
def narrow (number : Binary64) : Binary32 :=
  ⟨UInt32.ofNat
    ((if number.isNegative then 0x80000000 else 0) + number.narrowedMagnitude)⟩

end Binary64

end BinaryRecords

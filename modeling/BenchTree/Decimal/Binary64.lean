/-!
# Numbers of 53 binary digits

The finite non-negative numbers that a 64-bit floating point word can hold, as exact integers: a
mantissa times a power of two. `nearest` rounds a ratio to such a number; the number halfway goes
to the even mantissa. Everything is computed in natural numbers, so nothing is lost on the way.
-/

namespace BenchTree.Decimal

/-- The power of two with the given exponent. -/
def powerOfTwo (exponent : Nat) : Nat := Nat.pow 2 exponent

/-- The power of ten with the given exponent. -/
def powerOfTen (exponent : Nat) : Nat := Nat.pow 10 exponent

/-- The number `mantissa * 2 ^ exponent`. -/
structure Binary64 where
  mantissa : Nat
  exponent : Int
  deriving DecidableEq, Repr

namespace Binary64

/-- The exponent of the numbers closest to zero. -/
def leastExponent : Int := -1074

/-- The exponent of the largest numbers. -/
def largestExponent : Int := 971

/-- The number zero. -/
def zero : Binary64 := ⟨0, leastExponent⟩

/-- The numerator and the denominator of a number. -/
def toRatio (number : Binary64) : Nat × Nat :=
  (number.mantissa * powerOfTwo number.exponent.toNat, powerOfTwo (-number.exponent).toNat)

/-- A quotient rounded to the nearest integer, halves to the even one. -/
def divideEven (numerator denominator : Nat) : Nat :=
  let quotient := numerator / denominator
  let remainder := numerator % denominator
  if 2 * remainder < denominator ∨ (2 * remainder = denominator ∧ quotient % 2 = 0) then quotient
  else quotient + 1

/-- The largest exponent of a power of two that is at most a positive ratio. -/
def binaryExponent (numerator denominator : Nat) : Int :=
  let guess : Int := Int.ofNat numerator.log2 - Int.ofNat denominator.log2
  if denominator * powerOfTwo guess.toNat ≤ numerator * powerOfTwo (-guess).toNat then guess
  else guess - 1

/-- The number nearest to a ratio, unless it is beyond the largest number. -/
def nearest? (numerator denominator : Nat) : Option Binary64 :=
  if numerator = 0 then some zero
  else
    let exponent := max leastExponent (binaryExponent numerator denominator - 52)
    let mantissa :=
      divideEven (numerator * powerOfTwo (-exponent).toNat)
        (denominator * powerOfTwo exponent.toNat)
    let number : Binary64 :=
      if mantissa = powerOfTwo 53 then ⟨powerOfTwo 52, exponent + 1⟩ else ⟨mantissa, exponent⟩
    if largestExponent < number.exponent then none else some number

/-- The number nearest to a product, unless it is beyond the largest number. -/
def multiply? (left right : Binary64) : Option Binary64 :=
  nearest? (left.toRatio.1 * right.toRatio.1) (left.toRatio.2 * right.toRatio.2)

/-- The nearest number to a quotient by a number that is not zero. -/
def divide? (left right : Binary64) : Option Binary64 :=
  nearest? (left.toRatio.1 * right.toRatio.2) (left.toRatio.2 * right.toRatio.1)

/-- The nearest number to a power of ten. -/
def powerOfTen? (exponent : Nat) : Option Binary64 := nearest? (powerOfTen exponent) 1

/--
The nearest number to `digits * 10 ^ exponent`. Exponents far outside the range of the numbers are
settled by the count of the digits.
-/
def ofDecimal? (digits : Nat) (exponent : Int) : Option Binary64 :=
  let magnitude := exponent + (Nat.toDigits 10 digits).length
  if digits = 0 ∨ magnitude < -400 then some zero
  else if 400 < magnitude then none
  else nearest? (digits * powerOfTen exponent.toNat) (powerOfTen (-exponent).toNat)

end Binary64

end BenchTree.Decimal

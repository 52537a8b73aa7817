import BenchTree.Decimal.Shortest
import BenchTree.Json.Scanner
import BenchTree.Word

/-!
# The values of JSON numbers

A number without fraction and exponent that fits into a word, with or without a sign, is an
integer; every other number is a floating point one. Of the digits of such a number those count
that still fit into a word; the rest only move the point. The power of ten is then applied to the
rounded digits, so that the result may differ in the last place from the nearest number.
-/

namespace BenchTree.Json

open BenchTree.Decimal

/-- The value of a number. -/
inductive Number where
  | natural (value : Nat)
  /-- The negative of a positive number. -/
  | negative (value : Nat)
  | float (isNegative : Bool) (value : Binary64)

/-- By position for exponents from -5 to 15; of two equally near decimals the even one. -/
def floatLayout : Decimal.Layout where
  isPositional exponent := decide (-5 ≤ exponent) && decide (exponent ≤ 15)
  tiesUp := false

/-- Adds digits to a significand while it stays a word, and gives the digits left over. -/
def absorb (significand : Nat) : List Char → Nat × List Char
  | [] => (significand, [])
  | digit :: rest =>
      let extended := significand * 10 + (digit.toNat - '0'.toNat)
      if extended ≤ Word.largest then absorb extended rest else (significand, digit :: rest)

/-- The largest power of ten that is applied at once. -/
def largestPower : Nat := 308

/-- Divides a number by a power of ten, in steps that a power of ten can take. -/
def divideByPower? (number : Binary64) (exponent : Nat) : Option Binary64 :=
  if number.mantissa = 0 then some number
  else if _isLarge : largestPower < exponent then do
    let divided ← number.divide? (← Binary64.powerOfTen? largestPower)
    divideByPower? divided (exponent - largestPower)
  else do
    number.divide? (← Binary64.powerOfTen? exponent)
termination_by exponent
decreasing_by
  simp only [largestPower] at *
  omega

/-- A significand times a power of ten, unless it is too large. -/
def scale? (significand : Nat) (exponent : Int) : Option Binary64 := do
  let number ← Binary64.nearest? significand 1
  if exponent < 0 then divideByPower? number exponent.natAbs
  else if number.mantissa = 0 then some number
  else if (largestPower : Int) < exponent then none
  else number.multiply? (← Binary64.powerOfTen? exponent.natAbs)

/-- The largest exponent that is told apart from infinity. -/
def largestExponent : Nat := 0x7FFFFFFF

/-- The value of a floating point number, unless it is too large. -/
def NumberParts.float? (parts : NumberParts) : Option Binary64 :=
  let (significand, dropped) := absorb 0 parts.whole
  let (significand, unread) := absorb significand parts.fraction
  let point : Int := Int.ofNat dropped.length - Int.ofNat (parts.fraction.length - unread.length)
  match parts.exponent with
  | none => scale? significand point
  | some (isNegative, digits) =>
      let exponent := Nat.ofDigitChars 10 digits 0
      if largestExponent < exponent then
        if significand ≠ 0 ∧ !isNegative then none else some Binary64.zero
      else scale? significand (point + (if isNegative then -Int.ofNat exponent else exponent))

/-- The largest number whose negative is an integer. -/
def largestNegated : Nat := 0x8000000000000000

/-- The value of a number, unless it is too large. -/
def NumberParts.value? (parts : NumberParts) : Option Number :=
  let value := Nat.ofDigitChars 10 parts.whole 0
  let isInteger := parts.fraction = [] && parts.exponent = none
  if isInteger && !parts.isNegative && decide (value ≤ Word.largest) then some (.natural value)
  else if isInteger && parts.isNegative && decide (0 < value ∧ value ≤ largestNegated) then
    some (.negative value)
  else parts.float?.map (.float parts.isNegative)

/-- Takes a number and works out its value. -/
def readNumber : Reader Number := fun input => do
  let (parts, rest) ← readNumberParts input
  match parts.value? with
  | some number => return (number, rest)
  | none => .error .malformed

/-- A number, as a mismatch tells it. -/
def Number.found : Number → Found
  | .natural value => .integer value
  | .negative value => .integer (-Int.ofNat value)
  | .float isNegative value => .float (floatLayout.signedText isNegative value)

end BenchTree.Json

import BenchTree.Decimal.Binary64

/-!
# The shortest decimal of a number

The decimal with the fewest digits that is nearer to a number than to any other, and of those the
one nearest to the number itself. The decimals that belong to a number lie between the halfway
points to its neighbours; a halfway point belongs to the number with the even mantissa.

A layout says how the digits are written: up to which exponents by position, and which of two
equally near decimals is taken.
-/

namespace BenchTree

/-- The decimal `digits * 10 ^ exponent`. -/
structure Decimal where
  digits : Nat
  exponent : Int
  deriving DecidableEq, Repr

namespace Decimal

/-- How the digits of a number are written. -/
structure Layout where
  /-- A number whose first digit has this exponent is written by position. -/
  isPositional : Int → Bool
  /-- Of two equally near decimals the larger one is taken, otherwise the even one. -/
  tiesUp : Bool

/-- Compares a decimal with `count * 2 ^ exponent`. -/
def compareBinary (decimal : Decimal) (count : Nat) (exponent : Int) : Ordering :=
  compare (decimal.digits * powerOfTen decimal.exponent.toNat * powerOfTwo (-exponent).toNat)
    (count * powerOfTwo exponent.toNat * powerOfTen (-decimal.exponent).toNat)

/--
A decimal lies between the halfway points to a number's neighbours. The neighbour below a power of
two is at half the distance of the one above, except among the least numbers.
-/
def belongsTo (decimal : Decimal) (number : Binary64) : Bool :=
  let isNarrow :=
    number.mantissa = powerOfTwo 52 && decide (Binary64.leastExponent < number.exponent)
  let lowest := 4 * number.mantissa - (if isNarrow then 1 else 2)
  let highest := 4 * number.mantissa + 2
  let fromBelow := decimal.compareBinary lowest (number.exponent - 2)
  let fromAbove := decimal.compareBinary highest (number.exponent - 2)
  let isEven := number.mantissa % 2 = 0
  (fromBelow = .gt || isEven && fromBelow = .eq) && (fromAbove = .lt || isEven && fromAbove = .eq)

/-- The decimal `digits * 10 ^ exponent` without the zeros at the end of its digits. -/
def strip (exponent : Int) (digits : Nat) : Decimal :=
  if h : 0 < digits ∧ digits % 10 = 0 then strip (exponent + 1) (digits / 10)
  else ⟨digits, exponent⟩
termination_by digits
decreasing_by omega

namespace Binary64

/-- The least exponent of a power of ten that is greater than a positive number. -/
def decimalExponent (number : Binary64) : Int :=
  let (numerator, denominator) := number.toRatio
  if denominator ≤ numerator then (Nat.toDigits 10 (numerator / denominator)).length
  else
    let reaches (zeros : Nat) : Bool := decide (denominator ≤ numerator * powerOfTen (zeros + 1))
    let zeros := ((List.range 400).find? reaches).getD 400
    Int.negOfNat zeros

/-- The decimal of a number on the grid of the given exponent, if one belongs to it. -/
def onGrid? (number : Binary64) (tiesUp : Bool) (exponent : Int) : Option Decimal :=
  let (numerator, denominator) := number.toRatio
  let scaled := numerator * powerOfTen (-exponent).toNat
  let unit := denominator * powerOfTen exponent.toNat
  let below : Decimal := ⟨scaled / unit, exponent⟩
  let above : Decimal := ⟨scaled / unit + 1, exponent⟩
  match below.belongsTo number, above.belongsTo number with
  | true, true =>
      match compare (2 * (scaled % unit)) unit with
      | .lt => some below
      | .gt => some above
      | .eq => if tiesUp || below.digits % 2 = 1 then some above else some below
  | true, false => some below
  | false, true => some above
  | false, false => none

/-- The shortest decimal of a positive number; seventeen digits always suffice. -/
def shortest (number : Binary64) (tiesUp : Bool) : Decimal :=
  let exponent := number.decimalExponent
  let found := (List.range 17).findSome? fun count =>
    number.onGrid? tiesUp (exponent - Int.ofNat (count + 1))
  match found with
  | some decimal => strip decimal.exponent decimal.digits
  | none => ⟨number.toRatio.1 * powerOfTen 1074 / number.toRatio.2, -1074⟩

end Binary64

namespace Layout

/-- So many zeros. -/
def zeros (count : Nat) : String := String.ofList (List.replicate count '0')

/-- Digits written by position; `point` of them stand in front of the point. -/
def positional (digits : List Char) (point : Int) : String :=
  if point ≤ 0 then "0." ++ zeros (-point).toNat ++ String.ofList digits
  else if (digits.length : Int) ≤ point then
    String.ofList digits ++ zeros (point.toNat - digits.length) ++ ".0"
  else String.ofList (digits.take point.toNat) ++ "." ++ String.ofList (digits.drop point.toNat)

/-- An exponent with its sign. -/
def exponentText (exponent : Int) : String :=
  (if exponent < 0 then "-" else "+") ++ toString exponent.natAbs

/-- Digits written with one of them in front of the point, and the exponent behind. -/
def scientific (digits : List Char) (exponent : Int) : String :=
  let fraction := if digits.length ≤ 1 then "" else "." ++ String.ofList (digits.drop 1)
  String.ofList (digits.take 1) ++ fraction ++ "e" ++ exponentText exponent

/-- A number that is not negative, by its shortest digits. -/
def text (layout : Layout) (number : Binary64) : String :=
  if number.mantissa = 0 then "0.0"
  else
    let decimal := number.shortest layout.tiesUp
    let digits := Nat.toDigits 10 decimal.digits
    let point := decimal.exponent + digits.length
    if layout.isPositional (point - 1) then positional digits point
    else scientific digits (point - 1)

/-- The text of a number with a sign. -/
def signedText (layout : Layout) (isNegative : Bool) (number : Binary64) : String :=
  (if isNegative then "-" else "") ++ layout.text number

end Layout

end Decimal

end BenchTree

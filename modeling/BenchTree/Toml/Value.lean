import BenchTree.Decimal.Shortest
import BenchTree.Mismatch

/-!
# TOML values

What a TOML document holds. Tables keep their keys in the order of the document. Dates and times
are only told apart from other values.
-/

namespace BenchTree.Toml

open BenchTree.Decimal

/-- A floating point number. -/
inductive Real where
  | finite (isNegative : Bool) (value : Binary64)
  | infinite (isNegative : Bool)
  | notANumber
  deriving DecidableEq, Repr

/-- A value of a document. -/
inductive Value where
  | string (text : String)
  | integer (value : Int)
  | real (value : Real)
  | boolean (value : Bool)
  | moment
  | array (elements : List Value)
  | table (entries : List (String × Value))

/-- By position for all exponents; of two equally near decimals the larger one. -/
def realLayout : Decimal.Layout where
  isPositional _ := true
  tiesUp := true

/-- A real number, as a mismatch tells it. -/
def Real.text : Real → String
  | .finite isNegative value => realLayout.signedText isNegative value
  | .infinite false => "inf"
  | .infinite true => "-inf"
  | .notANumber => "NaN"

/-- A value, as a mismatch tells it. -/
def Value.found : Value → Found
  | .string text => .string text
  | .integer value => .integer value
  | .real value => .float value.text
  | .boolean value => .boolean value
  | .moment => .map
  | .array _ => .sequence
  | .table _ => .map

end BenchTree.Toml

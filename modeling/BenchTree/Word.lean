/-!
# Machine words

Counts and indices are natural numbers that fit into a 64-bit word. Sums and products of counts
stop at the largest word instead of wrapping around, so a count is never smaller than the truth
unless the truth does not fit. `read` takes a word from its decimal text.
-/

namespace BenchTree.Word

/-- The largest word. -/
def largest : Nat := 0xFFFFFFFFFFFFFFFF

/-- The word nearest to a count from below. -/
def saturate (count : Nat) : Nat := min count largest

/-- The sum of two counts, at most the largest word. -/
def saturatingAdd (left right : Nat) : Nat := saturate (left + right)

/-- The product of two counts, at most the largest word. -/
def saturatingMul (left right : Nat) : Nat := saturate (left * right)

/-- Why a text is not a word. -/
inductive ReadError where
  | empty
  | invalidDigit
  | tooLarge
  deriving DecidableEq, Repr

/-- What is told about a text that is not a word. -/
def ReadError.message : ReadError → String
  | .empty => "cannot parse integer from empty string"
  | .invalidDigit => "invalid digit found in string"
  | .tooLarge => "number too large to fit in target type"

/-- Reads the remaining digits of a word whose earlier digits have the value `value`. -/
def readDigits (value : Nat) : List Char → Except ReadError Nat
  | [] => .ok value
  | digit :: rest =>
      if digit.isDigit then
        let extended := 10 * value + (digit.toNat - '0'.toNat)
        if extended ≤ largest then readDigits extended rest else .error .tooLarge
      else .error .invalidDigit

/-- Reads a word: decimal digits, leading zeros and one leading plus sign allowed. -/
def read (text : String) : Except ReadError Nat :=
  match text.toList with
  | [] => .error .empty
  | ['+'] => .error .invalidDigit
  | '+' :: digits => readDigits 0 digits
  | digits => readDigits 0 digits

end BenchTree.Word

/-!
# Hexadecimal digits

A digit above nine is a letter, small or capital. Characters are given by such digits in JSON and
in TOML, and TOML has hexadecimal numbers as well.
-/

namespace BenchTree.Text

/-- The value of a hexadecimal digit. -/
def hexValue? (character : Char) : Option Nat :=
  if character.isDigit then some (character.toNat - '0'.toNat)
  else if 'a' ≤ character ∧ character ≤ 'f' then some (character.toNat - 'a'.toNat + 10)
  else if 'A' ≤ character ∧ character ≤ 'F' then some (character.toNat - 'A'.toNat + 10)
  else none

end BenchTree.Text

import BenchTree.Text.Visible

/-!
# Quoted text

Text between double quotes, as messages show it. Quotes and backslashes are marked with a
backslash, the common control characters have letters, and whatever else is not visible is given
by its code point.
-/

namespace BenchTree.Text

/-- A character as it stands between quotes, escaped if it has to be. -/
def quoteChar (character : Char) : List Char :=
  match character with
  | '\x00' => ['\\', '0']
  | '\t' => ['\\', 't']
  | '\r' => ['\\', 'r']
  | '\n' => ['\\', 'n']
  | '"' => ['\\', '"']
  | '\\' => ['\\', '\\']
  | character =>
      if isVisible character then [character]
      else ['\\', 'u', '\x7b'] ++ Nat.toDigits 16 character.toNat ++ ['\x7d']

/-- A text between quotes, with escapes. -/
def quoted (text : String) : String :=
  "\"" ++ String.ofList (text.toList.flatMap quoteChar) ++ "\""

end BenchTree.Text

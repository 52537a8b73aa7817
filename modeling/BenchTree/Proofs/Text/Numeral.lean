import BenchTree.Proofs.Text.Reading
import BenchTree.Proofs.Tree.Artifact

/-!
# Numerals inside texts

A numeral goes on as long as digits follow. Where none follows, the numeral at the beginning of a
text determines its number and the rest of the text, however many digits it has: 1 is not taken for
the beginning of 11. So a number that is spelled between two fixed texts can be read back.
-/

namespace BenchTree.Text

/-- A numeral that stands before the text ends there. -/
def EndsNumeral (text : List Char) : Prop := ∀ next ∈ text.head?, next.isDigit = false

theorem endsNumeral_nil : EndsNumeral [] := by simp [EndsNumeral]

theorem endsNumeral_cons {next : Char} (other : next.isDigit = false) (rest : List Char) :
    EndsNumeral (next :: rest) := by simpa [EndsNumeral] using other

theorem takeWhile_numeral (number : Nat) {rest : List Char} (ends : EndsNumeral rest) :
    (Nat.toDigits 10 number ++ rest).takeWhile Char.isDigit = Nat.toDigits 10 number := by
  have digits : ∀ character ∈ Nat.toDigits 10 number, character.isDigit := fun _ digit_mem =>
    Nat.isDigit_of_mem_toDigits (by decide) (by decide) digit_mem
  have behind : rest.takeWhile Char.isDigit = [] := by
    cases rest with
    | nil => rfl
    | cons next others =>
        have other : next.isDigit = false := ends next rfl
        rw [List.takeWhile_cons_of_neg (by simp [other])]
  rw [List.takeWhile_append_of_pos digits, behind, List.append_nil]

/-- Where a numeral ends, the text determines its number and what follows. -/
theorem numeral_append_inj {left right : Nat} {leftRest rightRest : List Char}
    (left_ends : EndsNumeral leftRest) (right_ends : EndsNumeral rightRest) :
    Nat.toDigits 10 left ++ leftRest = Nat.toDigits 10 right ++ rightRest ↔
      left = right ∧ leftRest = rightRest := by
  constructor
  · intro same
    have digits := congrArg (List.takeWhile Char.isDigit) same
    rw [takeWhile_numeral left left_ends, takeWhile_numeral right right_ends,
      Source.numeral_inj] at digits
    subst digits
    exact ⟨rfl, List.append_cancel_left same⟩
  · rintro ⟨rfl, rfl⟩
    rfl

/-- A numeral and what ends it begin a text that begins with a numeral, when the numbers are the
same and what ends the one begins what follows the other. -/
theorem numeral_append_prefix_iff {left right : Nat} {next : Char} {ending rest : List Char}
    (other : next.isDigit = false) (rest_ends : EndsNumeral rest) :
    Nat.toDigits 10 left ++ next :: ending <+: Nat.toDigits 10 right ++ rest ↔
      left = right ∧ next :: ending <+: rest := by
  constructor
  · rintro ⟨behind, same⟩
    rw [List.append_assoc, List.cons_append,
      numeral_append_inj (endsNumeral_cons other _) rest_ends] at same
    exact ⟨same.1, behind, same.2⟩
  · rintro ⟨rfl, begins⟩
    exact (List.prefix_append_right_inj _).mpr begins

/-- Takes a numeral and the words behind it off a text: its number, and the rest of the text. -/
def number? (words : String) (text : List Char) : Option (Nat × List Char) :=
  let digits := text.takeWhile Char.isDigit
  ((text.drop digits.length).dropPrefix? words.toList).map fun rest =>
    (Nat.ofDigitChars 10 digits 0, rest)

/-- A numeral is read where words follow that no digit begins. -/
theorem number?_numeral (number : Nat) {words : String}
    (blank : words.toList.head? = some ' ') (rest : List Char) :
    number? words (Nat.toDigits 10 number ++ (words.toList ++ rest)) = some (number, rest) := by
  have ends : EndsNumeral (words.toList ++ rest) := by
    rw [EndsNumeral, List.head?_append, blank]
    simp
  rw [number?, takeWhile_numeral number ends, List.drop_left,
    Nat.ofDigitChars_toDigits (by decide) (by decide),
    List.dropPrefix?_append_of_beq _ (beq_self_eq_true _), Option.map_some]

/-- The number whose numeral, without leading zeros, stands between two texts. -/
def numberBetween? (before behind text : String) : Option Nat :=
  let digits := (text.toList.drop before.toList.length).takeWhile Char.isDigit
  let number := Nat.ofDigitChars 10 digits 0
  if text.toList = before.toList ++ Nat.toDigits 10 number ++ behind.toList then some number
  else none

/-- A number is read between two texts exactly when it is spelled there. -/
theorem numberBetween?_eq_some_iff {before behind text : String}
    (ends : EndsNumeral behind.toList) {number : Nat} :
    numberBetween? before behind text = some number ↔
      text.toList = before.toList ++ Nat.toDigits 10 number ++ behind.toList := by
  constructor
  · intro read
    rw [numberBetween?, Option.ite_none_right_eq_some] at read
    rcases read with ⟨spelled, same⟩
    rw [Option.some_inj.mp same] at spelled
    exact spelled
  · intro spelled
    have digits : (text.toList.drop before.toList.length).takeWhile Char.isDigit =
        Nat.toDigits 10 number := by
      rw [spelled, List.append_assoc, List.drop_left, takeWhile_numeral number ends]
    rw [numberBetween?, digits, Nat.ofDigitChars_toDigits (by decide) (by decide), if_pos spelled]

end BenchTree.Text

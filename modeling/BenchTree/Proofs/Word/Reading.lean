import BenchTree.Word
import Mathlib

/-!
# Words in decimal digits

A text is read as a word when it is made of digits, at least one of them, maybe behind one plus
sign, and the number that they spell fits into a word. Leading zeros do no harm. In particular the
numeral of every word is read back.
-/

namespace BenchTree.Word

theorem le_ofDigitChars (digits : List Char) (value : Nat) :
    value ≤ Nat.ofDigitChars 10 digits value := by
  induction digits generalizing value with
  | nil => exact le_rfl
  | cons first rest ih =>
      rw [Nat.ofDigitChars_cons]
      have later := ih (10 * value + (first.toNat - '0'.toNat))
      omega

/-- Digits are read when the number that they make fits into a word. -/
theorem readDigits_eq_ok_iff {digits : List Char} {value number : Nat} (fits : value ≤ largest) :
    readDigits value digits = .ok number ↔
      (∀ digit ∈ digits, digit.isDigit = true) ∧ Nat.ofDigitChars 10 digits value = number ∧
        number ≤ largest := by
  induction digits generalizing value with
  | nil =>
      constructor
      · intro read
        cases read
        exact ⟨by simp, rfl, fits⟩
      · rintro ⟨_, rfl, _⟩
        rfl
  | cons first rest ih =>
      rw [readDigits, Nat.ofDigitChars_cons, List.forall_mem_cons]
      by_cases isDigit : first.isDigit = true
      · simp only [isDigit, if_true, true_and]
        by_cases extended_fits : 10 * value + (first.toNat - '0'.toNat) ≤ largest
        · rw [if_pos extended_fits, ih extended_fits]
        · rw [if_neg extended_fits]
          constructor
          · intro read
            cases read
          · rintro ⟨_, rfl, number_fits⟩
            exact absurd ((le_ofDigitChars rest _).trans number_fits) extended_fits
      · simp [isDigit]

/-- A text spells a word: digits, of which there is one, maybe behind a plus sign. -/
structure IsNumeral (text : String) (number : Nat) : Prop where
  spelled : ∃ digits : List Char, digits ≠ [] ∧ (∀ digit ∈ digits, digit.isDigit = true) ∧
    (text.toList = digits ∨ text.toList = '+' :: digits) ∧ Nat.ofDigitChars 10 digits 0 = number
  fits : number ≤ largest

/-- A text is read as a word exactly when it spells that word. -/
theorem read_eq_ok_iff {text : String} {number : Nat} :
    read text = .ok number ↔ IsNumeral text number := by
  have digits_iff : ∀ {digits : List Char}, readDigits 0 digits = .ok number ↔
      (∀ digit ∈ digits, digit.isDigit = true) ∧ Nat.ofDigitChars 10 digits 0 = number ∧
        number ≤ largest := readDigits_eq_ok_iff (Nat.zero_le _)
  have plus_not : ∀ {digits rest : List Char}, digits = '+' :: rest →
      ¬∀ digit ∈ digits, digit.isDigit = true := by
    rintro _ rest rfl isDigit
    exact absurd (isDigit '+' List.mem_cons_self) (by decide)
  constructor
  · intro text_read
    rw [read] at text_read
    split at text_read
    · cases text_read
    · cases text_read
    · rename_i digits no_digits text_eq
      rcases digits_iff.mp text_read with ⟨isDigit, value, fits⟩
      refine ⟨⟨digits, ?_, isDigit, Or.inr text_eq, value⟩, fits⟩
      rintro rfl
      exact no_digits rfl
    · rename_i nonempty _ _
      rcases digits_iff.mp text_read with ⟨isDigit, value, fits⟩
      exact ⟨⟨_, nonempty, isDigit, Or.inl rfl, value⟩, fits⟩
  · rintro ⟨⟨digits, nonempty, isDigit, spelled, value⟩, fits⟩
    have digits_read := digits_iff.mpr ⟨isDigit, value, fits⟩
    rw [read]
    rcases spelled with spelled | spelled
    · rw [spelled]
      split
      · exact absurd rfl nonempty
      · exact absurd isDigit (plus_not rfl)
      · exact absurd isDigit (plus_not rfl)
      · exact digits_read
    · rw [spelled]
      split
      · rename_i empty
        cases empty
      · rename_i no_digits
        exact absurd (List.cons.inj no_digits).2 nonempty
      · rename_i text_eq
        rw [← (List.cons.inj text_eq).2]
        exact digits_read
      · rename_i not_plus
        exact (not_plus _ rfl).elim

theorem isNumeral_toString {number : Nat} (fits : number ≤ largest) :
    IsNumeral (toString number) number := by
  refine ⟨⟨Nat.toDigits 10 number, Nat.toDigits_ne_nil, ?_, Or.inl ?_, ?_⟩, fits⟩
  · exact fun _ digit_mem => Nat.isDigit_of_mem_toDigits (by decide) (by decide) digit_mem
  · simp
  · exact Nat.ofDigitChars_toDigits (by decide) (by decide)

/-- Only the numeral of zero starts with a zero. -/
theorem no_leading_zero {number : Nat} {rest : List Char}
    (spelled : Nat.toDigits 10 number = '0' :: rest) : rest = [] := by
  induction number using Nat.strongRecOn generalizing rest with
  | ind number ih =>
      by_cases small : number < 10
      · rw [Nat.toDigits_of_lt_base small] at spelled
        exact (List.cons.inj spelled).2.symm
      · rw [Nat.toDigits_of_base_le (by decide) (by omega)] at spelled
        cases front : Nat.toDigits 10 (number / 10) with
        | nil => exact absurd front Nat.toDigits_ne_nil
        | cons first others =>
            rw [front, List.cons_append] at spelled
            rw [(List.cons.inj spelled).1] at front
            have value := Nat.ofDigitChars_toDigits (n := number / 10) (b := 10)
              (by decide) (by decide)
            rw [front, ih _ (by omega) front] at value
            have positive : number / 10 = 0 := value.symm
            omega

theorem read_numeral {number : Nat} (fits : number ≤ largest) :
    read (String.ofList (Nat.toDigits 10 number)) = .ok number := by
  rw [← Nat.toString_eq_ofList_toDigits]
  exact read_eq_ok_iff.mpr (isNumeral_toString fits)

end BenchTree.Word

import BenchTree.Proofs.Json.Grammar
import BenchTree.Proofs.Text.Reading
import BenchTree.Proofs.Word.Reading

/-!
# Reading the words of JSON

Blanks, strings and numbers are read as the grammar has them, and what follows is left. A number
goes on as long as it can, so what follows must not continue it.
-/

namespace BenchTree.Json

/-- What may follow a token: nothing, a blank, a comma or a closing bracket. -/
def EndsToken (rest : List Char) : Prop :=
  ∀ next ∈ rest.head?, next ∈ [' ', '\n', '\t', '\r', ',', ']', '\x7d']

/-! ## Blanks -/

theorem skipBlanks_append {lead : List Char} (blank : IsBlanks lead) (rest : List Char) :
    skipBlanks (lead ++ rest) = skipBlanks rest :=
  List.dropWhile_append_of_pos blank

theorem skipBlanks_cons {first : Char} (no_blank : isBlank first = false) (rest : List Char) :
    skipBlanks (first :: rest) = first :: rest := by
  simp [skipBlanks, no_blank]

/-- Blanks in front of something else are skipped. -/
theorem skipBlanks_lead {lead : List Char} (blank : IsBlanks lead) {first : Char}
    (no_blank : isBlank first = false) (rest : List Char) :
    skipBlanks (lead ++ first :: rest) = first :: rest := by
  rw [skipBlanks_append blank, skipBlanks_cons no_blank]

/-! ## Strings -/

theorem readPieces_append {letters : List Char} {pieces : List Piece}
    (has_pieces : HasPieces letters pieces) (rest : List Char) :
    readPieces (letters ++ '"' :: rest) = .ok (pieces, rest) := by
  induction has_pieces with
  | nil => rfl
  | @plain letter text pieces visible no_quote no_backslash _ ih =>
      rw [List.cons_append, readPieces, if_neg (by simp [no_backslash, visible]), ih]
      · rfl
      · exact fun quoted => no_quote quoted
      · exact fun _ _ _ _ _ escaped _ => no_backslash escaped
      · exact fun _ _ escaped _ => no_backslash escaped
  | @escape letter character text pieces escapes _ ih =>
      have no_unit : letter ≠ 'u' := by
        rintro rfl
        cases escapes
      rw [List.cons_append, List.cons_append, readPieces]
      · simp [escapes, ih, bind, Except.bind, pure, Except.pure]
      · exact fun _ _ _ _ _ is_unit _ => no_unit is_unit
  | unit digits _ ih => simp [readPieces, digits, ih, bind, Except.bind, pure, Except.pure]

theorem readString_append {letters : List Char} {text : String} (has_text : HasText letters text)
    (rest : List Char) : readString (letters ++ '"' :: rest) = .ok (text, rest) := by
  rcases has_text with ⟨pieces, has_pieces, joined⟩
  rw [readString, readPieces_append has_pieces]
  simp [joined, bind, Except.bind, pure, Except.pure]

/-- A unit that is no surrogate is a character by itself. -/
theorem joinPieces?_unit {value : Nat} (small : value < 0xD800) (pieces : List Piece) :
    joinPieces? (.unit value :: pieces) = (joinPieces? pieces).map (Char.ofNat value :: ·) := by
  have not_high : isHighSurrogate value = false := by
    simp [isHighSurrogate]
    omega
  have not_low : isLowSurrogate value = false := by
    simp [isLowSurrogate]
    omega
  rcases pieces with _ | ⟨_ | second, rest⟩
  · simp [joinPieces?, not_high, not_low]
  · simp [joinPieces?, not_high, not_low]
  · simp [joinPieces?, not_high, not_low]

/-! ## Numbers -/

/-- A text does not go on with a digit. -/
def EndsDigits (rest : List Char) : Prop := ∀ next ∈ rest.head?, next.isDigit = false

theorem takeDigits_append {digits rest : List Char}
    (isDigit : ∀ digit ∈ digits, digit.isDigit = true) (ends : EndsDigits rest) :
    takeDigits (digits ++ rest) = (digits, rest) := by
  rw [takeDigits, List.span_eq_takeWhile_dropWhile, List.takeWhile_append_of_pos isDigit,
    List.dropWhile_append_of_pos isDigit]
  rcases rest with _ | ⟨next, rest⟩
  · simp
  · simp [ends next rfl]

theorem IsDigits.first_ne {first other : Char} {others : List Char}
    (is_digits : IsDigits (first :: others)) (no_digit : other.isDigit = false) :
    first ≠ other := by
  rintro rfl
  rw [is_digits.each first List.mem_cons_self] at no_digit
  cases no_digit

theorem readDigits_append {digits rest : List Char} (is_digits : IsDigits digits)
    (ends : EndsDigits rest) : readDigits (digits ++ rest) = .ok (digits, rest) := by
  rw [readDigits, takeDigits_append is_digits.each ends]
  rcases digits with _ | ⟨first, others⟩
  · exact absurd rfl is_digits.nonempty
  · rfl

theorem readWhole_append {digits rest : List Char} (is_whole : IsWhole digits)
    (ends : EndsDigits rest) : readWhole (digits ++ rest) = .ok (digits, rest) := by
  simp only [readWhole, readDigits_append is_whole.toIsDigits ends, bind, Except.bind]
  split
  · exact absurd (is_whole.no_leading_zero _ rfl) (List.cons_ne_nil _ _)
  · rfl

/-- A text does not go on as a number. -/
structure EndsNumber (rest : List Char) : Prop where
  no_digit : EndsDigits rest
  no_mark : ∀ others, rest ≠ '.' :: others ∧ rest ≠ 'e' :: others ∧ rest ≠ 'E' :: others

theorem EndsToken.endsNumber {rest : List Char} (ends : EndsToken rest) : EndsNumber rest := by
  rcases rest with _ | ⟨next, others⟩
  · exact ⟨by simp [EndsDigits], by simp⟩
  · have next_mem := ends next rfl
    simp only [List.mem_cons, List.not_mem_nil, or_false] at next_mem
    rcases next_mem with rfl | rfl | rfl | rfl | rfl | rfl | rfl <;>
      exact ⟨by simp [EndsDigits], by simp⟩

theorem readFraction_none {rest : List Char} (no_point : ∀ others, rest ≠ '.' :: others) :
    readFraction rest = .ok ([], rest) := by
  rw [readFraction.eq_def]
  split
  · exact absurd rfl (no_point _)
  · rfl

theorem readFraction_append {fraction rest : List Char} (is_fraction : IsFraction fraction)
    (ends : EndsDigits rest) (no_point : ∀ others, rest ≠ '.' :: others) :
    ∃ digits, readFraction (fraction ++ rest) = .ok (digits, rest) := by
  cases is_fraction with
  | none => exact ⟨[], readFraction_none no_point⟩
  | some is_digits => exact ⟨_, readDigits_append is_digits ends⟩

theorem readExponent_none {rest : List Char} (ends : EndsNumber rest) :
    readExponent rest = .ok (none, rest) := by
  rw [readExponent]
  · exact fun others => (ends.no_mark others).2.1
  · exact fun others => (ends.no_mark others).2.2

theorem readExponent_append {exponent rest : List Char} (is_exponent : IsExponent exponent)
    (ends : EndsNumber rest) :
    ∃ parts, readExponent (exponent ++ rest) = .ok (parts, rest) := by
  cases is_exponent with
  | none => exact ⟨none, readExponent_none ends⟩
  | @some mark sign digits is_mark is_sign is_digits =>
      have digits_read := readDigits_append is_digits ends.no_digit
      rcases digits with _ | ⟨first, others⟩
      · exact absurd rfl is_digits.nonempty
      have no_plus : first ≠ '+' := is_digits.first_ne (by decide)
      have no_minus : first ≠ '-' := is_digits.first_ne (by decide)
      rw [List.cons_append] at digits_read
      simp only [List.mem_cons, List.not_mem_nil, or_false] at is_sign
      rcases is_mark with rfl | rfl <;> rcases is_sign with rfl | rfl | rfl <;>
        simp [readExponent, no_plus, no_minus, digits_read, bind, Except.bind, pure, Except.pure]

theorem endsDigits_exponent {exponent rest : List Char} (is_exponent : IsExponent exponent)
    (ends : EndsNumber rest) :
    EndsDigits (exponent ++ rest) ∧ ∀ others, exponent ++ rest ≠ '.' :: others := by
  cases is_exponent with
  | none => exact ⟨ends.no_digit, fun others => (ends.no_mark others).1⟩
  | some is_mark _ _ => rcases is_mark with rfl | rfl <;> simp [EndsDigits]

theorem endsDigits_fraction {fraction rest : List Char} (is_fraction : IsFraction fraction)
    (ends : EndsDigits rest) : EndsDigits (fraction ++ rest) := by
  cases is_fraction with
  | none => exact ends
  | some _ => simp [EndsDigits]

theorem readNumberParts_append {token rest : List Char} (is_number : IsNumber token)
    (ends : EndsToken rest) : ∃ parts, readNumberParts (token ++ rest) = .ok (parts, rest) := by
  rcases is_number with
    @⟨sign, whole, fraction, exponent, is_sign, is_whole, is_fraction, is_exponent⟩
  rcases readExponent_append is_exponent ends.endsNumber with ⟨exponent_parts, exponent_read⟩
  rcases endsDigits_exponent is_exponent ends.endsNumber with ⟨ends_digits, no_point⟩
  rcases readFraction_append is_fraction ends_digits no_point with ⟨digits, fraction_read⟩
  have whole_read := readWhole_append is_whole (endsDigits_fraction is_fraction ends_digits)
  rcases whole with _ | ⟨first, others⟩
  · exact absurd rfl is_whole.nonempty
  have no_minus : first ≠ '-' := is_whole.toIsDigits.first_ne (by decide)
  rw [List.cons_append] at whole_read
  simp only [List.mem_cons, List.not_mem_nil, or_false] at is_sign
  rcases is_sign with rfl | rfl
  · refine ⟨⟨false, first :: others, digits, exponent_parts⟩, ?_⟩
    simp [readNumberParts, no_minus, whole_read, fraction_read, exponent_read, bind, Except.bind,
      pure, Except.pure]
  · refine ⟨⟨true, first :: others, digits, exponent_parts⟩, ?_⟩
    simp [readNumberParts, whole_read, fraction_read, exponent_read, bind, Except.bind,
      pure, Except.pure]

/-- A number starts with a digit or a minus sign. -/
theorem IsNumber.starts {token : List Char} (is_number : IsNumber token) :
    ∃ first others, token = first :: others ∧ (first.isDigit = true ∨ first = '-') := by
  rcases is_number with @⟨sign, whole, fraction, exponent, is_sign, is_whole, _, _⟩
  rcases whole with _ | ⟨first, others⟩
  · exact absurd rfl is_whole.nonempty
  simp only [List.mem_cons, List.not_mem_nil, or_false] at is_sign
  rcases is_sign with rfl | rfl
  · exact ⟨first, _, rfl, Or.inl (is_whole.each first List.mem_cons_self)⟩
  · exact ⟨'-', _, rfl, Or.inr rfl⟩

theorem isWhole_toDigits (number : Nat) : IsWhole (Nat.toDigits 10 number) where
  nonempty := Nat.toDigits_ne_nil
  each _ digit_mem := Nat.isDigit_of_mem_toDigits (by decide) (by decide) digit_mem
  no_leading_zero _ spelled := Word.no_leading_zero spelled

/-- The numeral of a number is read as the number, unless it is no word. -/
theorem readNumber_toDigits {number : Nat} {rest : List Char} (fits : number ≤ Word.largest)
    (ends : EndsToken rest) :
    readNumber (Nat.toDigits 10 number ++ rest) = .ok (.natural number, rest) := by
  have is_whole := isWhole_toDigits number
  have whole_read := readWhole_append is_whole ends.endsNumber.no_digit
  have fraction_read := readFraction_none fun others => (ends.endsNumber.no_mark others).1
  have exponent_read := readExponent_none ends.endsNumber
  have value := Nat.ofDigitChars_toDigits (n := number) (b := 10) (by decide) (by decide)
  cases spelled : Nat.toDigits 10 number with
  | nil => exact absurd spelled is_whole.nonempty
  | cons first others =>
      rw [spelled] at is_whole whole_read value
      have no_minus : first ≠ '-' := is_whole.toIsDigits.first_ne (by decide)
      rw [List.cons_append] at whole_read
      simp [readNumber, readNumberParts, no_minus, whole_read, fraction_read, exponent_read,
        NumberParts.value?, value, fits, bind, Except.bind, pure, Except.pure]

end BenchTree.Json

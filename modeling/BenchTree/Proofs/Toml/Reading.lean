import BenchTree.Proofs.Text.Reading
import BenchTree.Proofs.Toml.WellFormed
import BenchTree.Proofs.Word.Reading

/-!
# Reading what is written plainly

Values that are written without needless detours are read back: numbers in decimal digits, truth
values, strings without escapes, arrays on one line. What is read does not depend on what follows,
as long as that cannot continue the value. From the values follow assignments, from these inline
tables and the statements of a document, one on each line.
-/

namespace BenchTree.Toml

/-- What may follow a value: the end of the line, a blank, a comma or a closing bracket. -/
def EndsValue (rest : List Char) : Prop :=
  ∀ next ∈ rest.head?, next ∈ ['\n', ' ', ',', ']', '}']

/-- A character that starts something on its line, be it the first line. -/
def StartsText (first : Char) : Prop := first ∉ ['\n', '\r', ' ', '\t', '#', '\ufeff']

/-- Whether a document may start with a character is found out by comparing it. -/
instance (first : Char) : Decidable (StartsText first) :=
  inferInstanceAs (Decidable (first ∉ ['\n', '\r', ' ', '\t', '#', '\ufeff']))

/-- A reader takes a text as a value, whatever follows. -/
structure Reader.Takes (read : Reader Value) (text : List Char) (value : Value) : Prop where
  starts : ∃ first others, text = first :: others ∧ StartsText first ∧ first ≠ ']'
  takes : ∀ rest, EndsValue rest → read (text ++ rest) = some (value, rest)

/-! ## Numbers -/

theorem hexValue?_of_isDigit {digit : Char} (isDigit : digit.isDigit = true) :
    Text.hexValue? digit = some (digit.toNat - '0'.toNat) := by
  rw [Text.hexValue?, if_pos isDigit]

theorem digitsValue_eq {digits : List Char} (isDigit : ∀ digit ∈ digits, digit.isDigit = true) :
    digitsValue 10 digits = Nat.ofDigitChars 10 digits 0 := by
  suffices from_value : ∀ value, digits.foldl
      (fun value digit => value * 10 + (Text.hexValue? digit).getD 0) value =
        Nat.ofDigitChars 10 digits value from from_value 0
  induction digits with
  | nil => exact fun value => rfl
  | cons first rest ih =>
      intro value
      rcases List.forall_mem_cons.mp isDigit with ⟨first_isDigit, rest_isDigit⟩
      rw [List.foldl_cons, Nat.ofDigitChars_cons, hexValue?_of_isDigit first_isDigit,
        Option.getD_some, Nat.mul_comm, ih rest_isDigit]

theorem not_isDigit_of_endsValue {next : Char} {rest : List Char}
    (ends : EndsValue (next :: rest)) : next.isDigit = false := by
  have next_mem := ends next rfl
  have checked : ∀ next ∈ ['\n', ' ', ',', ']', '}'], next.isDigit = false := by simp
  exact checked next next_mem

theorem readMoreDigits_append {digits rest : List Char}
    (isDigit : ∀ digit ∈ digits, digit.isDigit = true) (ends : EndsValue rest) :
    readMoreDigits Char.isDigit (digits ++ rest) = some (digits, rest) := by
  induction digits with
  | nil =>
      rcases rest with _ | ⟨next, rest⟩
      · rfl
      · have next_mem := ends next rfl
        have next_ne : next ≠ '_' := by
          rintro rfl
          exact absurd next_mem (by decide)
        rw [List.nil_append, readMoreDigits, not_isDigit_of_endsValue ends]
        · simp [next_ne]
        · simp [next_ne]
  | cons first others ih =>
      rcases List.forall_mem_cons.mp isDigit with ⟨first_isDigit, others_isDigit⟩
      have first_ne : first ≠ '_' := by
        rintro rfl
        exact absurd first_isDigit (by decide)
      rw [List.cons_append, readMoreDigits, if_pos first_isDigit, ih others_isDigit]
      · rfl
      · simp [first_ne]

/-- Digits are no part of a date or a time when what follows ends a value. -/
theorem readFixed_append {count : Nat} {digits rest behind : List Char} {value : Nat}
    (isDigit : ∀ digit ∈ digits, digit.isDigit = true) (ends : EndsValue rest)
    (taken : readFixed count (digits ++ rest) = some (value, behind)) (mark : Char)
    (no_digit : mark.isDigit = false) (no_end : mark ∉ ['\n', ' ', ',', ']', '}']) :
    behind.head? ≠ some mark := by
  rw [readFixed] at taken
  split at taken
  · rename_i fixed
    cases taken
    have enough : count ≤ digits.length := by
      by_contra short
      rw [not_le] at short
      rw [List.take_append, List.take_of_length_le short.le] at fixed
      rcases rest with _ | ⟨next, rest⟩
      · simp at fixed
        omega
      · have next_mem : next ∈ (next :: rest).take (count - digits.length) := by
          rw [show count - digits.length = (count - digits.length - 1) + 1 by omega]
          exact List.mem_cons_self
        have next_isDigit := List.all_eq_true.mp fixed.2 next (List.mem_append_right _ next_mem)
        rw [not_isDigit_of_endsValue ends] at next_isDigit
        cases next_isDigit
    rw [List.drop_append_of_le_length enough]
    intro is_mark
    cases others : digits.drop count with
    | nil =>
        rw [others, List.nil_append] at is_mark
        exact no_end (ends mark is_mark)
    | cons digit others_rest =>
        rw [others, List.cons_append, List.head?_cons, Option.some_inj] at is_mark
        have digit_mem : digit ∈ digits := List.mem_of_mem_drop (others ▸ List.mem_cons_self)
        rw [is_mark] at digit_mem
        rw [isDigit mark digit_mem] at no_digit
        cases no_digit
  · cases taken

theorem startsMoment_append {digits rest : List Char}
    (isDigit : ∀ digit ∈ digits, digit.isDigit = true) (ends : EndsValue rest) :
    startsMoment (digits ++ rest) = false := by
  rw [startsMoment, Bool.or_eq_false_iff]
  constructor
  · cases taken : readFixed 4 (digits ++ rest) with
    | none => rfl
    | some result =>
        simpa using readFixed_append isDigit ends taken '-' (by decide) (by decide)
  · cases taken : readFixed 2 (digits ++ rest) with
    | none => rfl
    | some result =>
        simpa using readFixed_append isDigit ends taken ':' (by decide) (by decide)

theorem startsReal_of_endsValue {rest : List Char} (ends : EndsValue rest) :
    startsReal rest = false := by
  rw [startsReal.eq_def]
  split
  · exact absurd (ends '.' rfl) (by decide)
  · exact absurd (ends 'e' rfl) (by decide)
  · exact absurd (ends 'E' rfl) (by decide)
  · rfl

theorem readWhole_append {number : Nat} {rest : List Char} (ends : EndsValue rest) :
    readWhole (Nat.toDigits 10 number ++ rest) = some (Nat.toDigits 10 number, rest) := by
  have isDigit : ∀ digit ∈ Nat.toDigits 10 number, digit.isDigit = true := fun _ digit_mem =>
    Nat.isDigit_of_mem_toDigits (by decide) (by decide) digit_mem
  cases spelled : Nat.toDigits 10 number with
  | nil => exact absurd spelled Nat.toDigits_ne_nil
  | cons first others =>
      rw [spelled] at isDigit
      rcases List.forall_mem_cons.mp isDigit with ⟨first_isDigit, others_isDigit⟩
      by_cases zero : first = '0'
      · subst zero
        rw [Word.no_leading_zero spelled]
        rfl
      · rw [List.cons_append, readWhole]
        · rw [readDigits, readMoreDigits_append others_isDigit ends, first_isDigit]
          rfl
        · intro behind input_eq
          exact zero (List.cons.inj input_eq).1

/-- What starts as the numeral of a number goes on as a number in decimal digits. -/
theorem readNumber_numeral {number : Nat} {first : Char} {others rest : List Char}
    (spelled : Nat.toDigits 10 number = first :: others) (ends : EndsValue rest) :
    readNumber (first :: others ++ rest) = readDecimal (first :: others ++ rest) := by
  have isDigit : ∀ digit ∈ first :: others, digit.isDigit = true := fun _ digit_mem =>
    Nat.isDigit_of_mem_toDigits (by decide) (by decide) (spelled ▸ digit_mem)
  have no_base : ∀ mark behind, mark ∉ ['\n', ' ', ',', ']', '}'] →
      first :: others ++ rest ≠ '0' :: mark :: behind := by
    intro mark behind no_end input_eq
    rw [(List.cons.inj input_eq).1] at spelled
    rw [Word.no_leading_zero spelled, List.singleton_append] at input_eq
    exact no_end (ends mark (by rw [(List.cons.inj input_eq).2]; rfl))
  rw [readNumber, startsMoment_append isDigit ends]
  · rfl
  · exact fun behind => no_base 'x' behind (by decide)
  · exact fun behind => no_base 'o' behind (by decide)
  · exact fun behind => no_base 'b' behind (by decide)

theorem readSign_digit {first : Char} (rest : List Char) (isDigit : first.isDigit = true) :
    readSign (first :: rest) = (none, first :: rest) := by
  rw [readSign]
  · rintro _ ⟨⟩
    exact absurd isDigit (by decide)
  · rintro _ ⟨⟩
    exact absurd isDigit (by decide)

/-- A number in decimal digits is read as that number. -/
theorem readNumber_toDigits {number : Nat} {rest : List Char} (fits : number < 2 ^ 63)
    (ends : EndsValue rest) :
    readNumber (Nat.toDigits 10 number ++ rest) = some (.integer number, rest) := by
  have isDigit : ∀ digit ∈ Nat.toDigits 10 number, digit.isDigit = true := fun _ digit_mem =>
    Nat.isDigit_of_mem_toDigits (by decide) (by decide) digit_mem
  have whole := @readWhole_append number _ ends
  have value := digitsValue_eq isDigit
  rw [Nat.ofDigitChars_toDigits (by decide) (by decide)] at value
  cases spelled : Nat.toDigits 10 number with
  | nil => exact absurd spelled Nat.toDigits_ne_nil
  | cons first others =>
      rw [spelled] at whole value isDigit
      have first_isDigit := isDigit first List.mem_cons_self
      rw [List.cons_append] at whole
      rw [readNumber_numeral spelled ends, readDecimal, List.cons_append,
        readSign_digit _ first_isDigit]
      dsimp only
      split
      · rename_i input_eq
        rw [(List.cons.inj input_eq).1] at first_isDigit
        exact absurd first_isDigit (by decide)
      · rename_i input_eq
        rw [(List.cons.inj input_eq).1] at first_isDigit
        exact absurd first_isDigit (by decide)
      · have in_range : -signedLimit ≤ (number : Int) ∧ (number : Int) < signedLimit := by
          rw [signedLimit]
          omega
        simp [whole, startsReal_of_endsValue ends, value, integer?, in_range]

/-! ## Values -/

/-- A text that starts neither an array nor a table is taken when it is taken as a scalar. -/
theorem takes_scalar {first : Char} {others : List Char} {value : Value} (starts : StartsText first)
    (no_bracket : first ∉ ['[', ']', '\x7b'])
    (scalar : ∀ {rest}, EndsValue rest →
      readScalar (first :: others ++ rest) = some (value, rest)) (levels : Nat) :
    Reader.Takes (readValue levels) (first :: others) value := by
  simp only [List.mem_cons, List.not_mem_nil, or_false, not_or] at no_bracket
  rcases no_bracket with ⟨no_array, no_end, no_table⟩
  refine ⟨⟨first, others, rfl, starts, no_end⟩, fun rest ends => ?_⟩
  rw [← scalar ends]
  cases levels with
  | zero => rfl
  | succ levels =>
      rw [List.cons_append, readValue]
      · rintro _ ⟨⟩
        exact no_array rfl
      · rintro _ ⟨⟩
        exact no_table rfl

theorem takes_integer (levels : Nat) {number : Nat} (fits : number < 2 ^ 63) :
    Reader.Takes (readValue levels) (Nat.toDigits 10 number) (.integer number) := by
  have isDigit : ∀ digit ∈ Nat.toDigits 10 number, digit.isDigit = true := fun _ digit_mem =>
    Nat.isDigit_of_mem_toDigits (by decide) (by decide) digit_mem
  cases spelled : Nat.toDigits 10 number with
  | nil => exact absurd spelled Nat.toDigits_ne_nil
  | cons first others =>
      rw [spelled] at isDigit
      have first_ne : ∀ other : Char, other.isDigit = false → first ≠ other := by
        rintro other no_digit rfl
        rw [isDigit first List.mem_cons_self] at no_digit
        cases no_digit
      refine takes_scalar (by simp [StartsText, first_ne]) (by simp [first_ne]) ?_ levels
      intro rest ends
      have number_read := readNumber_toDigits fits ends
      rw [spelled, List.cons_append] at number_read
      rw [← number_read, List.cons_append, readScalar]
      all_goals simp [first_ne]

theorem takes_boolean (levels : Nat) (truth : Bool) :
    Reader.Takes (readValue levels) (toString truth).toList (.boolean truth) := by
  cases truth with
  | false =>
      change Reader.Takes _ ['f', 'a', 'l', 's', 'e'] _
      exact takes_scalar (by decide) (by decide) (fun _ => rfl) levels
  | true =>
      change Reader.Takes _ ['t', 'r', 'u', 'e'] _
      exact takes_scalar (by decide) (by decide) (fun _ => rfl) levels

/-! ## Arrays -/

theorem skipTrivia_starts {first : Char} {rest : List Char} (starts : StartsText first) :
    skipTrivia false (first :: rest) = some (first :: rest) := by
  simp only [StartsText, List.mem_cons, List.not_mem_nil, or_false, not_or] at starts
  rcases starts with ⟨no_feed, no_return, no_blank, no_tab, no_comment, _⟩
  rw [skipTrivia]
  · simp [isBlank, no_blank, no_tab, no_comment]
  · exact no_feed
  · exact fun _ first_eq _ => no_return first_eq

theorem skipTrivia_blank (rest : List Char) :
    skipTrivia false (' ' :: rest) = skipTrivia false rest := by
  rw [skipTrivia]
  · rfl
  · simp
  · simp

theorem readElements_last {read : Reader Value} {text input rest : List Char} {value : Value}
    (taken : read.Takes text value)
    (skipped : skipTrivia false input = some (text ++ ']' :: rest)) :
    readElements read input = some ([value], rest) := by
  rcases taken with ⟨⟨first, others, rfl, starts, no_end⟩, takes⟩
  have value_read := takes (']' :: rest) (by simp [EndsValue])
  have closing : skipTrivia false (']' :: rest) = some (']' :: rest) :=
    skipTrivia_starts (by decide)
  rw [List.cons_append] at value_read skipped
  rw [readElements, skipped]
  simp [no_end, value_read, closing]

theorem readElements_more {read : Reader Value} {text input rest behind : List Char} {value : Value}
    {values : List Value} (taken : read.Takes text value)
    (skipped : skipTrivia false input = some (text ++ ',' :: rest))
    (shorter : rest.length < input.length)
    (later : readElements read rest = some (values, behind)) :
    readElements read input = some (value :: values, behind) := by
  rcases taken with ⟨⟨first, others, rfl, starts, no_end⟩, takes⟩
  have value_read := takes (',' :: rest) (by simp [EndsValue])
  have comma : skipTrivia false (',' :: rest) = some (',' :: rest) :=
    skipTrivia_starts (by decide)
  rw [List.cons_append] at value_read skipped
  rw [readElements, skipped]
  simp [no_end, value_read, comma, shorter, later]

theorem skipTrivia_intercalate {read : Reader Value} {texts : List (List Char)}
    {values : List Value} (taken : List.Forall₂ read.Takes texts values) (rest : List Char) :
    skipTrivia false ([',', ' '].intercalate texts ++ ']' :: rest) =
      some ([',', ' '].intercalate texts ++ ']' :: rest) := by
  cases taken with
  | nil => exact skipTrivia_starts (by decide)
  | cons first_taken taken =>
      rcases first_taken.starts with ⟨first, others, rfl, starts, _⟩
      rw [Text.intercalate_cons]
      exact skipTrivia_starts starts

/-- Elements with commas and blanks between them are read in order. -/
theorem readElements_intercalate {read : Reader Value} {texts : List (List Char)}
    {values : List Value} (taken : List.Forall₂ read.Takes texts values) {input rest : List Char}
    (skipped : skipTrivia false input =
      some ([',', ' '].intercalate texts ++ ']' :: rest))
    (enough : ([',', ' '].intercalate texts ++ ']' :: rest).length ≤ input.length) :
    readElements read input = some (values, rest) := by
  induction taken generalizing input with
  | nil =>
      rw [readElements, skipped]
      simp
  | @cons text value texts values first_taken taken ih =>
      cases taken with
      | nil =>
          rw [List.intercalate_singleton] at skipped
          exact readElements_last first_taken skipped
      | @cons second _ texts _ second_taken taken =>
          rw [List.intercalate_cons_cons] at skipped enough
          simp only [List.append_assoc, List.cons_append, List.nil_append] at skipped enough
          refine readElements_more first_taken skipped ?_ (ih ?_ ?_)
          · simp at enough ⊢
            omega
          · rw [skipTrivia_blank]
            exact skipTrivia_intercalate (.cons second_taken taken) rest
          · simp

theorem takes_array {levels : Nat} {texts : List (List Char)} {values : List Value}
    (taken : List.Forall₂ (Reader.Takes (readValue levels)) texts values) :
    Reader.Takes (readValue (levels + 1)) ('[' :: ([',', ' '].intercalate texts ++ [']']))
      (.array values) := by
  refine ⟨⟨'[', _, rfl, by decide, by decide⟩, fun rest _ => ?_⟩
  have elements_read := readElements_intercalate taken (skipTrivia_intercalate taken rest) le_rfl
  simp [readValue, elements_read]

/-! ## Assignments -/

/-- A text is taken as a key in front of an equals sign. -/
structure TakesKey (text : List Char) (names : List String) : Prop where
  starts : ∃ first others, text = first :: others ∧ isBareChar first = true
  takes : ∀ rest, readKey (text ++ ' ' :: '=' :: rest) = some (names, '=' :: rest)

theorem starts_of_bare {first : Char} (bare : isBareChar first = true) :
    StartsText first ∧ first ∉ ['[', '\x7d'] := by
  have no_mark : ∀ marks : List Char, (∀ mark ∈ marks, isBareChar mark = false) →
      first ∉ marks := by
    intro marks not_bare first_mem
    rw [not_bare first first_mem] at bare
    cases bare
  exact ⟨no_mark _ (by simp [isBareChar]), no_mark _ (by simp [isBareChar])⟩

/-- A key, an equals sign between blanks, and the text of a value. -/
def assignmentText (key text : List Char) : List Char := key ++ ' ' :: '=' :: ' ' :: text

theorem readAssignment_text {read : Reader Value} {key text : List Char} {names : List String}
    {value : Value} (key_taken : TakesKey key names) (taken : read.Takes text value)
    (rest : List Char) (ends : EndsValue rest) :
    readAssignment read (assignmentText key text ++ rest) = some ((names, value), rest) := by
  have text_eq : assignmentText key text ++ rest = key ++ ' ' :: '=' :: ' ' :: (text ++ rest) := by
    simp [assignmentText]
  have skipped : skipBlanks (' ' :: (text ++ rest)) = text ++ rest := by
    rcases taken.starts with ⟨first, others, rfl, starts, _⟩
    simp only [StartsText, List.mem_cons, List.not_mem_nil, or_false, not_or] at starts
    simp [skipBlanks, isBlank, starts]
  rw [readAssignment, text_eq, key_taken.takes]
  change (read (skipBlanks (' ' :: (text ++ rest)))).bind _ = _
  rw [skipped, taken.takes rest ends]
  rfl

/-! ## Inline tables -/

section

variable {read : Reader Value} {items : List (String × List Char × Value)}

/-- The texts of the entries of a table: each key with the text of its value. -/
def itemTexts (items : List (String × List Char × Value)) : List (List Char) :=
  items.map fun (key, text, _) => assignmentText key.toList text

/-- The entries of a table. -/
def itemEntries (items : List (String × List Char × Value)) : List (String × Value) :=
  items.map fun (key, _, value) => (key, value)

/-- Every key and the text of every value is taken. -/
def TakesItems (read : Reader Value) (items : List (String × List Char × Value)) : Prop :=
  ∀ item ∈ items, TakesKey item.1.toList [item.1] ∧ read.Takes item.2.1 item.2.2

theorem readInlineEntries_last {key : String} {input rest : List Char} {value : Value}
    {before : List (String × Value)} (fresh : key ∉ before.map Prod.fst)
    (taken : readAssignment read input = some (([key], value), ' ' :: '\x7d' :: rest)) :
    readInlineEntries read (Entries.ofValues before) input =
      some (Entries.ofValues (before ++ [(key, value)]), rest) := by
  rw [readInlineEntries, taken]
  simp [Entries.insert_ofValues value fresh, skipBlanks, isBlank]

theorem readInlineEntries_more {key : String} {input rest : List Char} {value : Value}
    {before : List (String × Value)} (fresh : key ∉ before.map Prod.fst)
    (taken : readAssignment read input = some (([key], value), ',' :: rest))
    (shorter : rest.length < input.length) :
    readInlineEntries read (Entries.ofValues before) input =
      readInlineEntries read (Entries.ofValues (before ++ [(key, value)])) rest := by
  rw [readInlineEntries, taken]
  simp [Entries.insert_ofValues value fresh, skipBlanks, isBlank, shorter]

/-- Entries with commas and blanks between them are read in order. -/
theorem readInlineEntries_intercalate (taken : TakesItems read items) (nonempty : items ≠ [])
    {before : List (String × Value)} (distinct : ((before ++ itemEntries items).map Prod.fst).Nodup)
    {input rest : List Char}
    (skipped : readAssignment read input = readAssignment read
      ([',', ' '].intercalate (itemTexts items) ++ ' ' :: '\x7d' :: rest))
    (enough : ([',', ' '].intercalate (itemTexts items) ++ ' ' :: '\x7d' :: rest).length ≤
      input.length) :
    readInlineEntries read (Entries.ofValues before) input =
      some (Entries.ofValues (before ++ itemEntries items), rest) := by
  induction items generalizing before input with
  | nil => exact absurd rfl nonempty
  | cons item items ih =>
      rcases item with ⟨key, text, value⟩
      rcases List.forall_mem_cons.mp taken with ⟨⟨key_taken, value_taken⟩, items_taken⟩
      have fresh : key ∉ before.map Prod.fst := by
        rw [List.map_append, List.nodup_append] at distinct
        exact fun key_mem => distinct.2.2 key key_mem key (by simp [itemEntries]) rfl
      cases items with
      | nil =>
          have assigned := readAssignment_text key_taken value_taken (' ' :: '\x7d' :: rest)
            (by simp [EndsValue])
          rw [itemTexts, List.map_singleton, List.intercalate_singleton, assigned] at skipped
          exact readInlineEntries_last fresh skipped
      | cons second items =>
          have texts_eq : [',', ' '].intercalate (itemTexts ((key, text, value) :: second :: items))
                ++ ' ' :: '\x7d' :: rest =
              assignmentText key.toList text ++ ',' :: ' ' :: ([',', ' '].intercalate
                (itemTexts (second :: items)) ++ ' ' :: '\x7d' :: rest) := by
            simp [itemTexts, List.intercalate_cons_cons]
          rw [texts_eq] at skipped enough
          rw [readAssignment_text key_taken value_taken _ (by simp [EndsValue])] at skipped
          have entries_eq : before ++ itemEntries ((key, text, value) :: second :: items) =
              before ++ [(key, value)] ++ itemEntries (second :: items) := by
            simp [itemEntries]
          rw [entries_eq] at distinct ⊢
          rw [readInlineEntries_more fresh skipped]
          · exact ih items_taken (List.cons_ne_nil _ _) distinct rfl (by simp)
          · simp only [List.length_append, List.length_cons] at enough ⊢
            omega

/-- The texts of entries start with a key. -/
theorem exists_intercalate_eq_cons (taken : TakesItems read items) (nonempty : items ≠ []) :
    ∃ first others, [',', ' '].intercalate (itemTexts items) = first :: others ∧
      isBareChar first = true := by
  rcases items with _ | ⟨⟨key, text, value⟩, items⟩
  · exact absurd rfl nonempty
  · rcases (taken (key, text, value) List.mem_cons_self).1.starts with ⟨first, others, key_eq, bare⟩
    dsimp only at key_eq
    refine ⟨first, others ++ ' ' :: '=' :: ' ' :: text ++
      (itemTexts items).flatMap ([',', ' '] ++ ·), ?_, bare⟩
    simp [itemTexts, Text.intercalate_cons, assignmentText, key_eq]

theorem takes_table {levels : Nat} (taken : TakesItems (readValue levels) items)
    (distinct : ((itemEntries items).map Prod.fst).Nodup) :
    Reader.Takes (readValue (levels + 1))
      ('\x7b' :: ' ' :: ([',', ' '].intercalate (itemTexts items) ++ [' ', '\x7d']))
      (.table (itemEntries items)) := by
  refine ⟨⟨_, _, rfl, by decide, by decide⟩, fun rest _ => ?_⟩
  rcases items with _ | ⟨item, items⟩
  · rfl
  · rcases exists_intercalate_eq_cons taken (List.cons_ne_nil _ _) with ⟨first, others, eq, bare⟩
    rcases starts_of_bare bare with ⟨starts, no_bracket⟩
    simp only [StartsText, List.mem_cons, List.not_mem_nil, or_false, not_or] at starts no_bracket
    have entries_read := @readInlineEntries_intercalate _ _ taken (List.cons_ne_nil _ _) []
      distinct _ rest rfl le_rfl
    have text_eq : '\x7b' :: ' ' :: (first :: others ++ [' ', '\x7d']) ++ rest =
        '\x7b' :: ' ' :: first :: (others ++ ' ' :: '\x7d' :: rest) := by simp
    have skipped : skipBlanks (' ' :: first :: (others ++ ' ' :: '\x7d' :: rest)) =
        first :: (others ++ ' ' :: '\x7d' :: rest) := by simp [skipBlanks, isBlank, starts]
    rw [eq, List.cons_append] at entries_read
    rw [eq, text_eq]
    change readInlineTable (readValue levels) _ = _
    rw [readInlineTable, skipped]
    change readInlineEntries _ [] _ = _ at entries_read
    simp [no_bracket, entries_read, Entries.toValues_ofValues]

end

/-! ## Documents -/

/-- A text is taken as a statement that fills a line. -/
structure TakesStatement (text : List Char) (statement : Statement) : Prop where
  starts : ∃ first others, text = first :: others ∧ StartsText first
  takes : ∀ rest, readStatement (text ++ '\n' :: rest) = some (statement, '\n' :: rest)

theorem takesStatement_assign {key text : List Char} {names : List String} {value : Value}
    (key_taken : TakesKey key names) (taken : Reader.Takes (readValue deepest) text value) :
    TakesStatement (assignmentText key text) (.assign names value) := by
  have assigned := fun rest => readAssignment_text key_taken taken ('\n' :: rest)
    (by simp [EndsValue])
  rcases key_taken.starts with ⟨first, others, rfl, bare⟩
  rcases starts_of_bare bare with ⟨starts, no_bracket⟩
  simp only [List.mem_cons, List.not_mem_nil, or_false, not_or] at no_bracket
  refine ⟨⟨first, _, rfl, starts⟩, fun rest => ?_⟩
  rw [readStatement]
  · rw [assigned]
    rfl
  · exact fun _ input_eq => no_bracket.1 (List.cons.inj input_eq).1
  · exact fun _ input_eq => no_bracket.1 (List.cons.inj input_eq).1

theorem readStatements_line {text rest : List Char} {statement : Statement}
    {statements : List Statement} (taken : TakesStatement text statement)
    (later : readStatements rest = some statements) :
    readStatements (text ++ '\n' :: rest) = some (statement :: statements) := by
  rcases taken with ⟨⟨first, others, rfl, starts⟩, takes⟩
  have statement_read := takes rest
  rw [List.cons_append] at statement_read ⊢
  rw [readStatements, skipTrivia_starts starts]
  have line_end : readTrailing ('\n' :: rest) = some rest := rfl
  have shorter : rest.length ≤ others.length + (rest.length + 1) := by omega
  simp [statement_read, line_end, later, shorter]

/-- The statements on the lines of a document are read in order. -/
theorem readStatements_lines {texts : List (List Char)} {statements : List Statement}
    (taken : List.Forall₂ TakesStatement texts statements) :
    readStatements (texts.flatMap (· ++ ['\n'])) = some statements := by
  induction taken with
  | nil =>
      rw [List.flatMap_nil, readStatements]
      rfl
  | @cons text statement texts statements first_taken taken ih =>
      simpa using readStatements_line first_taken ih

theorem statementsOf_lines {text : String} {texts : List (List Char)} {statements : List Statement}
    (taken : List.Forall₂ TakesStatement texts statements)
    (text_eq : text.toList = texts.flatMap (· ++ ['\n'])) :
    statementsOf text = some statements := by
  rw [← readStatements_lines taken, statementsOf, text_eq]
  split
  · rename_i rest marked
    cases taken with
    | nil => cases marked
    | cons first_taken taken =>
        rcases first_taken.starts with ⟨first, others, rfl, starts⟩
        rw [(List.cons.inj marked).1] at starts
        exact absurd starts (by decide)
  · rfl

end BenchTree.Toml

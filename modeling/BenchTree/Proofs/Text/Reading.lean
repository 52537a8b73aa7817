import BenchTree.Source
import Mathlib

/-!
# Reading texts

Simple readers for texts in which names, quotations and parentheses carry the meaning. A text falls
into pieces between separators; what is quoted stands between two double quotes; an application is
a name with an opening parenthesis right behind it, and what stands before the next closing one are
its arguments. Each reader goes on behind a separator as if the text began there, so a text that
was put together from parts is read part by part.
-/

namespace BenchTree.Text

/-- The pieces of a text between separators, of which some are kept. -/
def pieces (isSeparator : Char → Bool) (keep : List Char → Bool) (text : List Char) :
    List (List Char) :=
  (text.splitOnP isSeparator).filter keep

/-- The lines of a text; behind its last line break stands one more. -/
def lines (text : List Char) : List (List Char) := pieces (· == '\n') (fun _ => true) text

/-- White space, in any script. -/
def isBlank (character : Char) : Bool :=
  let code := character.toNat
  (0x09 ≤ code && code ≤ 0x0D) || code == 0x20 || code == 0x85 || code == 0xA0 || code == 0x1680
    || (0x2000 ≤ code && code ≤ 0x200A) || code == 0x2028 || code == 0x2029 || code == 0x202F
    || code == 0x205F || code == 0x3000

/-- The words of a text between blanks. -/
def words (text : String) : List String :=
  (pieces isBlank (fun piece => !piece.isEmpty) text.toList).map String.ofList

/-- What is quoted in a text, given the letters of the quotation in which the text begins. -/
def quotationsFrom : Option (List Char) → List Char → List String
  | _, [] => []
  | none, character :: rest =>
      if character = '"' then quotationsFrom (some []) rest else quotationsFrom none rest
  | some letters, character :: rest =>
      if character = '"' then String.ofList letters :: quotationsFrom none rest
      else quotationsFrom (some (letters ++ [character])) rest

/-- What is quoted in a text, in order. -/
def quotations (text : List Char) : List String := quotationsFrom none text

/-- A name and what stands in the parentheses right behind it. -/
structure Application where
  name : String
  arguments : String
  deriving DecidableEq, Repr

/-- An application as it is written. -/
def Application.text (application : Application) : String :=
  application.name ++ "(" ++ application.arguments ++ ")"

/-- Where a reader of applications stands. -/
inductive Position where
  /-- Behind the letters of a word. -/
  | word (letters : List Char)
  /-- Behind the letters of some arguments. -/
  | arguments (name letters : List Char)

/-- The applications of a text that are complete, given where its reader stands. -/
def applicationsFrom (isLetter : Char → Bool) : Position → List Char → List Application
  | _, [] => []
  | .word letters, character :: rest =>
      if isLetter character then applicationsFrom isLetter (.word (letters ++ [character])) rest
      else if character = '(' && !letters.isEmpty then
        applicationsFrom isLetter (.arguments letters []) rest
      else applicationsFrom isLetter (.word []) rest
  | .arguments name letters, character :: rest =>
      if character = ')' then
        ⟨String.ofList name, String.ofList letters⟩ :: applicationsFrom isLetter (.word []) rest
      else applicationsFrom isLetter (.arguments name (letters ++ [character])) rest

/-- The applications in a text, whose names are made of the given letters. -/
def applications (isLetter : Char → Bool) (text : List Char) : List Application :=
  applicationsFrom isLetter (.word []) text

section

variable {isSeparator : Char → Bool} {keep : List Char → Bool}

/-- Parts with separators between them are the first part and the others behind a separator each. -/
theorem intercalate_cons {Letter : Type} (separator first : List Letter)
    (rest : List (List Letter)) :
    separator.intercalate (first :: rest) = first ++ rest.flatMap (separator ++ ·) := by
  induction rest generalizing first with
  | nil => simp
  | cons second rest ih => simp [List.intercalate_cons_cons, ih]

theorem pieces_append_cons (before after : List Char) {separator : Char}
    (separates : isSeparator separator = true) :
    pieces isSeparator keep (before ++ separator :: after) =
      pieces isSeparator keep before ++ pieces isSeparator keep after := by
  rw [pieces, List.splitOnP_append_cons _ _ separates, List.filter_append]
  rfl

theorem pieces_of_plain {piece : List Char}
    (plain : ∀ character ∈ piece, isSeparator character = false) :
    pieces isSeparator keep piece = if keep piece then [piece] else [] := by
  rw [pieces, List.splitOnP_eq_singleton plain, List.filter_singleton]
  cases keep piece <;> rfl

theorem pieces_of_not_mem {separator : Char} {piece : List Char} (plain : separator ∉ piece) :
    pieces (· == separator) (fun _ => true) piece = [piece] := by
  rw [pieces_of_plain, if_pos rfl]
  intro character character_mem
  rw [beq_eq_false_iff_ne]
  rintro rfl
  exact plain character_mem

/-- A piece at the beginning of a text is read first. -/
theorem pieces_piece {piece : List Char}
    (plain : ∀ character ∈ piece, isSeparator character = false) {separator : Char}
    (separates : isSeparator separator = true) (rest : List Char) :
    pieces isSeparator keep (piece ++ separator :: rest) =
      (if keep piece then [piece] else []) ++ pieces isSeparator keep rest := by
  rw [pieces_append_cons _ _ separates, pieces_of_plain plain]

end

/-- A text is a word: it is not empty, and there is no blank in it. -/
structure IsWord (text : String) : Prop where
  notEmpty : text ≠ ""
  noBlank : ∀ character ∈ text.toList, isBlank character = false

theorem words_word {word : String} (isWord : IsWord word) {blank : Char}
    (separates : isBlank blank = true) (rest : String) :
    words (String.ofList (word.toList ++ blank :: rest.toList)) = word :: words rest := by
  have kept : (!word.toList.isEmpty) = true := by simpa using isWord.notEmpty
  rw [words, String.toList_ofList, pieces_piece isWord.noBlank separates, if_pos kept]
  simp [words]

theorem words_singleton {word : String} (isWord : IsWord word) : words word = [word] := by
  have kept : (!word.toList.isEmpty) = true := by simpa using isWord.notEmpty
  rw [words, pieces_of_plain isWord.noBlank, if_pos kept]
  simp

theorem isBlank_of_isAlphanum {character : Char} (alphanum : character.isAlphanum = true) :
    isBlank character = false := by
  have code : character.val.toNat = character.toNat := rfl
  simp [Char.isAlphanum, Char.isAlpha, Char.isUpper, Char.isLower, Char.isDigit,
    UInt32.le_iff_toNat_le, code] at alphanum
  simp [isBlank]
  omega

theorem not_mem_numeral {number : Nat} {character : Char} (other : character.isDigit = false) :
    character ∉ Nat.toDigits 10 number := by
  intro digit_mem
  have digit : character.isDigit = true :=
    Nat.isDigit_of_mem_toDigits (by decide) (by decide) digit_mem
  rw [other] at digit
  cases digit

/-- The letters of names in programs and scripts. -/
def isNameLetter (character : Char) : Bool := character.isAlphanum || character = '_'

/-- A text is a name: it is made of letters, digits and underscores. -/
structure IsName (text : String) : Prop where
  notEmpty : text ≠ ""
  letters : ∀ letter ∈ text.toList, isNameLetter letter = true

namespace IsName

theorem toList_ne_nil {name : String} (isName : IsName name) : name.toList ≠ [] :=
  fun empty => isName.notEmpty (String.toList_eq_nil_iff.mp empty)

theorem not_mem {name : String} (isName : IsName name) {character : Char}
    (other : isNameLetter character = false) : character ∉ name.toList := by
  intro character_mem
  rw [isName.letters character character_mem] at other
  cases other

theorem isWord {name : String} (isName : IsName name) : IsWord name := by
  refine ⟨isName.notEmpty, ?_⟩
  intro letter letter_mem
  have letters := isName.letters letter letter_mem
  rw [isNameLetter, Bool.or_eq_true, decide_eq_true_eq] at letters
  rcases letters with alphanum | rfl
  · exact isBlank_of_isAlphanum alphanum
  · rfl

theorem of_all (name : String) (notEmpty : name ≠ "")
    (letters : name.toList.all isNameLetter = true) : IsName name :=
  ⟨notEmpty, List.all_eq_true.mp letters⟩

/-- A numeral behind a stem of letters makes a name. -/
theorem of_numeral {name : String} (stem : List Char) (number : Nat)
    (letters : stem.all isNameLetter = true)
    (spelled : name.toList = stem ++ Nat.toDigits 10 number) : IsName name := by
  constructor
  · rintro rfl
    exact Nat.toDigits_ne_nil (List.append_eq_nil_iff.mp spelled.symm).2
  · intro letter letter_mem
    rw [spelled, List.mem_append] at letter_mem
    rcases letter_mem with letter_mem | digit_mem
    · exact List.all_eq_true.mp letters letter letter_mem
    · have digit : letter.isDigit = true :=
        Nat.isDigit_of_mem_toDigits (by decide) (by decide) digit_mem
      simp [isNameLetter, Char.isAlphanum, digit]

end IsName

theorem lines_flatMap (parts : List (List Char)) (plain : ∀ part ∈ parts, '\n' ∉ part) :
    lines (parts.flatMap fun part => part ++ ['\n']) = parts ++ [[]] := by
  induction parts with
  | nil => rfl
  | cons first rest ih =>
      rw [List.flatMap_cons, List.append_assoc, List.singleton_append, lines,
        pieces_append_cons _ _ (by rfl), pieces_of_not_mem (plain first List.mem_cons_self)]
      rw [lines] at ih
      rw [ih fun part part_mem => plain part (List.mem_cons_of_mem _ part_mem)]
      rfl

theorem lines_unlines {texts : List String} (plain : ∀ text ∈ texts, '\n' ∉ text.toList) :
    lines (Source.unlines texts).toList = texts.map String.toList ++ [[]] := by
  have spelled : (Source.unlines texts).toList =
      (texts.map String.toList).flatMap fun line => line ++ ['\n'] := by
    simp [Source.unlines, List.flatMap_map]
  rw [spelled, lines_flatMap _ (by simpa using plain)]

theorem quotationsFrom_some (letters quoted rest : List Char) (plain : '"' ∉ quoted) :
    quotationsFrom (some letters) (quoted ++ '"' :: rest) =
      String.ofList (letters ++ quoted) :: quotationsFrom none rest := by
  induction quoted generalizing letters with
  | nil => simp [quotationsFrom]
  | cons first others ih =>
      rw [List.mem_cons, not_or] at plain
      rw [List.cons_append, quotationsFrom, if_neg (Ne.symm plain.1), ih _ plain.2,
        List.append_assoc]
      rfl

theorem quotationsFrom_none (before rest : List Char) (plain : '"' ∉ before) :
    quotationsFrom none (before ++ rest) = quotationsFrom none rest := by
  induction before with
  | nil => rfl
  | cons first others ih =>
      rw [List.mem_cons, not_or] at plain
      rw [List.cons_append, quotationsFrom, if_neg (Ne.symm plain.1), ih plain.2]

/-- A quotation is read behind a text without quotations. -/
theorem quotations_quoted {before quoted : List Char} (before_plain : '"' ∉ before)
    (quoted_plain : '"' ∉ quoted) (rest : List Char) :
    quotations (before ++ '"' :: quoted ++ '"' :: rest) =
      String.ofList quoted :: quotations rest := by
  rw [quotations, List.append_assoc, quotationsFrom_none _ _ before_plain, List.cons_append,
    quotationsFrom, if_pos rfl, quotationsFrom_some _ _ _ quoted_plain]
  rfl

section

variable {isLetter : Char → Bool}

theorem applicationsFrom_letters (letters word rest : List Char)
    (word_letters : ∀ character ∈ word, isLetter character = true) :
    applicationsFrom isLetter (.word letters) (word ++ rest) =
      applicationsFrom isLetter (.word (letters ++ word)) rest := by
  induction word generalizing letters with
  | nil => simp
  | cons first others ih =>
      rw [List.cons_append, applicationsFrom, if_pos (word_letters first List.mem_cons_self),
        ih _ fun character later => word_letters character (List.mem_cons_of_mem _ later),
        List.append_assoc]
      rfl

theorem applicationsFrom_arguments (name letters arguments rest : List Char)
    (plain : ')' ∉ arguments) :
    applicationsFrom isLetter (.arguments name letters) (arguments ++ ')' :: rest) =
      ⟨String.ofList name, String.ofList (letters ++ arguments)⟩ ::
        applications isLetter rest := by
  induction arguments generalizing letters with
  | nil => simp [applicationsFrom, applications]
  | cons first others ih =>
      rw [List.mem_cons, not_or] at plain
      rw [List.cons_append, applicationsFrom, if_neg (Ne.symm plain.1), ih _ plain.2,
        List.append_assoc]
      rfl

/-- An application at the beginning of a text is read first. -/
theorem applications_application {name arguments : List Char} (rest : List Char)
    (name_letters : ∀ character ∈ name, isLetter character = true) (named : name ≠ [])
    (parenthesis : isLetter '(' = false) (plain : ')' ∉ arguments) :
    applications isLetter (name ++ '(' :: (arguments ++ ')' :: rest)) =
      ⟨String.ofList name, String.ofList arguments⟩ :: applications isLetter rest := by
  rw [applications, applicationsFrom_letters _ _ _ name_letters, List.nil_append,
    applicationsFrom, if_neg (by simp [parenthesis]), if_pos (by simp [named]),
    applicationsFrom_arguments _ _ _ _ plain]
  rfl

theorem applications_text (application : Application) (rest : List Char)
    (name_letters : ∀ letter ∈ application.name.toList, isLetter letter = true)
    (named : application.name ≠ "") (parenthesis : isLetter '(' = false)
    (plain : ')' ∉ application.arguments.toList) :
    applications isLetter (application.text.toList ++ rest) =
      application :: applications isLetter rest := by
  have spelled : application.text.toList ++ rest =
      application.name.toList ++ '(' :: (application.arguments.toList ++ ')' :: rest) := by
    simp [Application.text]
  have named_letters : application.name.toList ≠ [] := fun empty =>
    named (String.toList_eq_nil_iff.mp empty)
  rw [spelled, applications_application rest name_letters named_letters parenthesis plain,
    String.ofList_toList, String.ofList_toList]

/-- A separator ends the word before it; without a parenthesis nothing was read up to there. -/
theorem applicationsFrom_append_cons (letters before rest : List Char) {separator : Char}
    (plain : '(' ∉ before) (separates : isLetter separator = false)
    (separator_ne : separator ≠ '(') :
    applicationsFrom isLetter (.word letters) (before ++ separator :: rest) =
      applications isLetter rest := by
  induction before generalizing letters with
  | nil => simp [applicationsFrom, applications, separates, separator_ne]
  | cons first others ih =>
      rw [List.mem_cons, not_or] at plain
      rw [List.cons_append, applicationsFrom]
      by_cases letter : isLetter first = true
      · rw [if_pos letter, ih _ plain.2]
      · rw [if_neg letter, if_neg (by simp [Ne.symm plain.1]), ih _ plain.2]

/-- Where no parenthesis is closed there are no applications. -/
theorem applicationsFrom_of_open (position : Position) (text : List Char) (plain : ')' ∉ text) :
    applicationsFrom isLetter position text = [] := by
  induction text generalizing position with
  | nil => cases position <;> rfl
  | cons first others ih =>
      rw [List.mem_cons, not_or] at plain
      cases position with
      | word letters =>
          rw [applicationsFrom]
          split
          · exact ih _ plain.2
          · split
            · exact ih _ plain.2
            · exact ih _ plain.2
      | arguments name letters => rw [applicationsFrom, if_neg (Ne.symm plain.1), ih _ plain.2]

theorem applications_of_plain (text : List Char) (plain : '(' ∉ text) :
    applications isLetter text = [] := by
  suffices general : ∀ letters, applicationsFrom isLetter (.word letters) text = [] from general []
  induction text with
  | nil => exact fun _ => rfl
  | cons first others ih =>
      rw [List.mem_cons, not_or] at plain
      intro letters
      rw [applicationsFrom]
      by_cases letter : isLetter first = true
      · rw [if_pos letter, ih plain.2]
      · rw [if_neg letter, if_neg (by simp [Ne.symm plain.1]), ih plain.2]

end

end BenchTree.Text

import BenchTree.Description
import BenchTree.Proofs.Text.Reading
import BenchTree.Proofs.Tree.Artifact
import BenchTree.Proofs.Word.Reading

/-!
# The sources in a description

The sources of a library are found in a description without regard to its format: they are the
tokens between white space, parentheses and brackets that are numerals with the ending of a source
behind them. Both formats name the sources of a module in order, each once.
-/

namespace BenchTree

namespace Description

/-- The characters at which tokens end. -/
def isBreak (character : Char) : Bool :=
  Text.isBlank character || character = '(' || character = ')' || character = '['
    || character = ']'

/-- A token, read backwards, without the endings of a source that it begins with. -/
def dropEndings : List Char → List Char
  | 'c' :: '.' :: rest => dropEndings rest
  | letters => letters

/-- A token is a word with the ending of a source behind it. -/
def isSource (token : List Char) : Bool :=
  ".c".toList.isSuffixOf token
    && (Word.read (String.ofList (dropEndings token.reverse).reverse)).isOk

/-- The sources that a description of any format names, in order. -/
def sources (text : String) : List String :=
  (Text.pieces isBreak isSource text.toList).map String.ofList

theorem isSource_of_not_mem {token : List Char} (plain : '.' ∉ token) : isSource token = false := by
  have other : ".c".toList.isSuffixOf token = false := by
    rw [Bool.eq_false_iff, Ne, List.isSuffixOf_iff_suffix]
    intro suffix
    exact plain (suffix.subset (by decide))
  rw [isSource, other, Bool.false_and]

theorem isSource_sourceName {file : Nat} (fits : file ≤ Word.largest) :
    isSource (Source.sourceName file).toList = true := by
  have dropped : dropEndings (Source.sourceName file).toList.reverse =
      (Nat.toDigits 10 file).reverse := by
    have backwards : (Source.sourceName file).toList.reverse =
        'c' :: '.' :: (Nat.toDigits 10 file).reverse := by
      simp
    have no_ending : ∀ rest, (Nat.toDigits 10 file).reverse ≠ 'c' :: '.' :: rest := by
      intro rest same
      have letter_mem : 'c' ∈ Nat.toDigits 10 file := by
        rw [← List.mem_reverse, same]
        exact List.mem_cons_self
      exact Text.not_mem_numeral (by decide) letter_mem
    rw [backwards, dropEndings]
    unfold dropEndings
    split
    · rename_i rest same
      exact absurd same (no_ending rest)
    · rfl
  have ending : ".c".toList.isSuffixOf (Source.sourceName file).toList = true := by
    rw [List.isSuffixOf_iff_suffix, Source.toList_sourceName]
    exact List.suffix_append _ _
  rw [isSource, dropped, List.reverse_reverse, Word.read_numeral fits, ending]
  rfl

theorem isBreak_of_mem_sourceName {file : Nat} :
    ∀ character ∈ (Source.sourceName file).toList, isBreak character = false := by
  intro character character_mem
  rw [Source.toList_sourceName, List.mem_append] at character_mem
  rcases character_mem with digit_mem | ending_mem
  · have digit : character.isDigit = true :=
      Nat.isDigit_of_mem_toDigits (by decide) (by decide) digit_mem
    have noBlank : Text.isBlank character = false :=
      Text.isBlank_of_isAlphanum (by simp [Char.isAlphanum, digit])
    have other : character ≠ '(' ∧ character ≠ ')' ∧ character ≠ '[' ∧ character ≠ ']' := by
      refine ⟨?_, ?_, ?_, ?_⟩ <;>
        (rintro rfl; exact absurd digit (by decide))
    simp [isBreak, noBlank, other]
  · rcases List.mem_pair.mp ending_mem with rfl | rfl <;> rfl

theorem pieces_break {first : Char} (breaks : isBreak first = true) (rest : List Char) :
    Text.pieces isBreak isSource (first :: rest) = Text.pieces isBreak isSource rest := by
  rw [← List.nil_append (first :: rest), Text.pieces_piece (by simp) breaks]
  rfl

/-- Where there is no dot, no source is named. -/
theorem pieces_eq_nil {text : List Char} (plain : '.' ∉ text) :
    Text.pieces isBreak isSource text = [] := by
  suffices general : ∀ piece : List Char, '.' ∉ piece →
      (∀ character ∈ piece, isBreak character = false) →
      Text.pieces isBreak isSource (piece ++ text) = [] from general [] (by simp) (by simp)
  induction text with
  | nil =>
      intro piece no_dot unbroken
      rw [List.append_nil, Text.pieces_of_plain unbroken, isSource_of_not_mem no_dot]
      rfl
  | cons first rest ih =>
      rw [List.mem_cons, not_or] at plain
      intro piece no_dot unbroken
      cases breaks : isBreak first with
      | true =>
          rw [Text.pieces_piece unbroken breaks, isSource_of_not_mem no_dot]
          exact ih plain.2 [] (by simp) (by simp)
      | false =>
          rw [List.append_cons]
          apply ih plain.2
          · simpa [no_dot] using plain.1
          · simpa [or_imp, forall_and, breaks] using unbroken

/-- What begins with a break does not go on with the token before it. -/
theorem pieces_append (before : List Char) {rest : List Char} {first : Char}
    (begins : rest.head? = some first) (breaks : isBreak first = true) :
    Text.pieces isBreak isSource (before ++ rest) =
      Text.pieces isBreak isSource before ++ Text.pieces isBreak isSource rest := by
  rcases List.head?_eq_some_iff.mp begins with ⟨later, rfl⟩
  rw [Text.pieces_append_cons _ _ breaks, pieces_break breaks]

/-- Sources on lines of their own, each perhaps behind a blank, are read one after another. -/
theorem pieces_flatMap {files : List Nat} (fits : ∀ file ∈ files, file ≤ Word.largest)
    {opening : List Char} (blank : opening = [] ∨ opening = [' ']) (rest : List Char) :
    Text.pieces isBreak isSource
        (files.flatMap (fun file => opening ++ (Source.sourceName file).toList ++ ['\n']) ++ rest) =
      files.map (fun file => (Source.sourceName file).toList)
        ++ Text.pieces isBreak isSource rest := by
  induction files with
  | nil => rfl
  | cons first others ih =>
      have line : ∀ text, Text.pieces isBreak isSource
          (opening ++ ((Source.sourceName first).toList ++ '\n' :: text)) =
            (Source.sourceName first).toList :: Text.pieces isBreak isSource text := by
        intro text
        have read : Text.pieces isBreak isSource
            ((Source.sourceName first).toList ++ '\n' :: text) =
              (Source.sourceName first).toList :: Text.pieces isBreak isSource text := by
          rw [Text.pieces_piece isBreak_of_mem_sourceName (by decide),
            if_pos (isSource_sourceName (fits first List.mem_cons_self))]
          rfl
        rcases blank with rfl | rfl
        · exact read
        · rw [List.singleton_append, pieces_break (by decide), read]
      rw [List.flatMap_cons, List.append_assoc, List.append_assoc, List.append_assoc,
        List.singleton_append, line, ih fun file file_mem => fits file (.tail _ file_mem)]
      rfl

section

variable {name : String} (isName : Text.IsName name) {files : Nat}
  (fits : files ≤ Word.largest)

include isName fits

theorem sources_cmake :
    sources (CMake.module name files) = (List.range files).map Source.sourceName := by
  have range_fits : ∀ file ∈ List.range files, file ≤ Word.largest := fun file file_mem =>
    (List.mem_range.mp file_mem).le.trans fits
  have spelled : (CMake.module name files).toList =
      ("add_library(".toList ++ name.toList ++ " SHARED".toList) ++
        ((List.range files).flatMap (fun file =>
          [' '] ++ (Source.sourceName file).toList ++ ['\n']) ++ ")\n".toList) := by
    simp [CMake.module, List.flatMap_map]
  have begins : ∃ first, ((List.range files).flatMap (fun file =>
      [' '] ++ (Source.sourceName file).toList ++ ['\n']) ++ ")\n".toList).head? = some first ∧
        isBreak first = true := by
    cases List.range files with
    | nil => exact ⟨')', rfl, rfl⟩
    | cons first rest => exact ⟨' ', rfl, rfl⟩
  rcases begins with ⟨first, begins, breaks⟩
  have opening : Text.pieces isBreak isSource
      ("add_library(".toList ++ name.toList ++ " SHARED".toList) = [] :=
    pieces_eq_nil (by simp [isName.not_mem (show Text.isNameLetter '.' = false by decide)])
  have closing : Text.pieces isBreak isSource ")\n".toList = [] := rfl
  rw [sources, spelled, pieces_append _ begins breaks, opening,
    pieces_flatMap range_fits (.inr rfl), closing]
  simp only [List.nil_append, List.append_nil, List.map_map, Function.comp_def,
    String.ofList_toList]

theorem sources_meique :
    sources (Meique.module name files) = (List.range files).map Source.sourceName := by
  have range_fits : ∀ file ∈ List.range files, file ≤ Word.largest := fun file file_mem =>
    (List.mem_range.mp file_mem).le.trans fits
  have spelled : (Meique.module name files).toList =
      (name.toList ++ " = Library:new(\"".toList ++ name.toList ++ "\", SHARED)\n".toList
        ++ name.toList ++ ":addFiles([[".toList) ++ '\n' ::
        ((List.range files).flatMap (fun file =>
          [] ++ (Source.sourceName file).toList ++ ['\n']) ++ "]])\n".toList) := by
    simp [Meique.module, Source.unlines, List.flatMap_map]
  have opening : Text.pieces isBreak isSource
      (name.toList ++ " = Library:new(\"".toList ++ name.toList ++ "\", SHARED)\n".toList
        ++ name.toList ++ ":addFiles([[".toList) = [] :=
    pieces_eq_nil (by simp [isName.not_mem (show Text.isNameLetter '.' = false by decide)])
  have closing : Text.pieces isBreak isSource "]])\n".toList = [] := rfl
  rw [sources, spelled, Text.pieces_append_cons _ _ (by decide), opening,
    pieces_flatMap range_fits (.inl rfl), closing]
  simp only [List.nil_append, List.append_nil, List.map_map, Function.comp_def,
    String.ofList_toList]

end

end Description

end BenchTree

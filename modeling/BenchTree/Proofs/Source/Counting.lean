import BenchTree.Proofs.Source.Reader

/-!
# The dependencies counted in a text

Two counts are read off the text of a source without regard to the graph: the lines that include a
file, and the places at which a term begins that adds the result of a numbered function. In the
sources of a tree both come to the fanout. No other line of them includes a file, and the two plus
signs that stand there besides, those before `b` and before `1`, begin no such term.
-/

namespace BenchTree.Source

/-- How many lines of a text include a file. -/
def includeCount (text : String) : Nat :=
  (Text.lines text.toList).countP ("#include ".toList.isPrefixOf ·)

/-- The text begins with a term that adds the result of a numbered function of `a` and `b`. -/
def beginsTerm (text : List Char) : Bool :=
  let behind := text.drop "+ func".toList.length
  "+ func".toList.isPrefixOf text && !(behind.takeWhile Char.isDigit).isEmpty
    && "(a, b)".toList.isPrefixOf (behind.dropWhile Char.isDigit)

/-- At how many places of a text such a term begins. -/
def terms (text : List Char) : Nat := text.tails.countP beginsTerm

/-- How many such terms a text holds. -/
def termCount (text : String) : Nat := terms text.toList

theorem includeCount_source (module file : Nat) (shape : Shape) :
    includeCount (source module file shape) = shape.fanout := by
  rw [includeCount, lines_source]
  by_cases entry : file = 0
  · simp [initializerDefinition, includeLine, entry, Function.comp_def]
  · simp [initializerDefinition, includeLine, entry, Function.comp_def]

theorem terms_cons (first : Char) (rest : List Char) :
    terms (first :: rest) = terms rest + if beginsTerm (first :: rest) then 1 else 0 := by
  rw [terms, List.tails_cons, List.countP_cons, terms]

/-- A term begins with its sign, so none begins in a text without one. -/
theorem terms_append_of_plain {before : List Char} (plain : '+' ∉ before) (rest : List Char) :
    terms (before ++ rest) = terms rest := by
  induction before with
  | nil => rfl
  | cons first others ih =>
      rw [List.mem_cons, not_or] at plain
      have none_begins : beginsTerm (first :: (others ++ rest)) = false := by
        simp [beginsTerm, List.isPrefixOf, plain.1]
      rw [List.cons_append, terms_cons, none_begins, ih plain.2]
      rfl

theorem terms_callTerm (file : Nat) (rest : List Char) :
    terms ((callTerm file).toList ++ rest) = terms rest + 1 := by
  have digits : ∀ character ∈ Nat.toDigits 10 file, character.isDigit := fun _ digit_mem =>
    Nat.isDigit_of_mem_toDigits (by decide) (by decide) digit_mem
  have spelled : (callTerm file).toList ++ rest =
      [' '] ++ '+' :: ((" func".toList ++ Nat.toDigits 10 file ++ "(a, b)".toList) ++ rest) := by
    simp [callTerm]
  have begins : beginsTerm
      ('+' :: ((" func".toList ++ Nat.toDigits 10 file ++ "(a, b)".toList) ++ rest)) = true := by
    simp [beginsTerm, List.takeWhile_append_of_pos digits, List.dropWhile_append_of_pos digits,
      Nat.toDigits_ne_nil]
  have plain : '+' ∉ " func".toList ++ Nat.toDigits 10 file ++ "(a, b)".toList := by
    simp [Text.not_mem_numeral]
  rw [spelled, terms_append_of_plain (by decide), terms_cons, terms_append_of_plain plain, begins]
  rfl

theorem terms_callTerms (files : List Nat) (rest : List Char) :
    terms (files.flatMap (fun file => (callTerm file).toList) ++ rest) =
      terms rest + files.length := by
  induction files with
  | nil => rfl
  | cons first others ih =>
      rw [List.flatMap_cons, List.append_assoc, terms_callTerm, ih, List.length_cons,
        Nat.add_assoc]

theorem terms_initializerDefinition (module file : Nat) :
    terms (unlines (initializerDefinition module file)).toList = 0 := by
  have successor_ends : ∀ rest, terms ("+ 1".toList ++ rest) = terms rest := fun _ => rfl
  by_cases entry : file = 0
  · have spelled : (unlines (initializerDefinition module file)).toList =
        ("int initModule".toList ++ Nat.toDigits 10 module
          ++ "(int a) \x7b\n    return func0(a, a ".toList)
        ++ ("+ 1".toList ++ ");\n\x7d\n".toList) := by
      simp [unlines, initializerDefinition, entry]
    have plain : '+' ∉ "int initModule".toList ++ Nat.toDigits 10 module
        ++ "(int a) \x7b\n    return func0(a, a ".toList := by
      simp [Text.not_mem_numeral]
    rw [spelled, terms_append_of_plain plain, successor_ends]
    rfl
  · rw [initializerDefinition, if_neg entry]
    rfl

theorem termCount_source (module file : Nat) (shape : Shape) :
    termCount (source module file shape) = shape.fanout := by
  have sum_ends : ∀ rest, terms ("+ b".toList ++ rest) = terms rest := fun _ => rfl
  have spelled : (source module file shape).toList =
      (((shape.dependencies file).map includeLine).flatMap (fun line => line.toList ++ ['\n'])
        ++ "int func".toList ++ Nat.toDigits 10 file
        ++ "(int a, int b) \x7b\n    return a ".toList)
      ++ ("+ b".toList
        ++ ((shape.dependencies file).flatMap (fun dependency => (callTerm dependency).toList)
        ++ (";\n\x7d\n".toList ++ (unlines (initializerDefinition module file)).toList))) := by
    simp [source, unlines, List.flatMap_map]
  have plain : '+' ∉ ((shape.dependencies file).map includeLine).flatMap
      (fun line => line.toList ++ ['\n']) ++ "int func".toList ++ Nat.toDigits 10 file
        ++ "(int a, int b) \x7b\n    return a ".toList := by
    simp [includeLine, Text.not_mem_numeral]
  rw [termCount, spelled, terms_append_of_plain plain, sum_ends, terms_callTerms,
    terms_append_of_plain (by decide), terms_initializerDefinition, Shape.length_dependencies,
    Nat.zero_add]

end BenchTree.Source

import BenchTree.Proofs.Source.Reader

/-!
# Preprocessing

What a compiler sees of a text that includes others is found in two steps. The lines of each
included text take the place of the line that includes it, and then the directives that guard texts
against being included twice are obeyed: a group of lines under the condition that a name is not
defined is left out when the name is defined already. So a guarded text is kept where it is included
first, and from then on its name is defined. Other directives are not looked at, and included texts
are expected to include nothing in their turn.
-/

namespace BenchTree.Source

/-- The directives that guard a text. -/
inductive Directive where
  | unlessDefined (name : String)
  | define (name : String)
  | endGroup
  deriving DecidableEq, Repr

/-- A line is a directive when its first character that is not blank is a hash. -/
def isDirective (line : List Char) : Bool := (line.dropWhile Text.isBlank).head? = some '#'

/-- The directive that a line gives, if it is one of those that are used here. -/
def directive? (line : List Char) : Option Directive :=
  if isDirective line then
    match Text.words (String.ofList line) with
    | ["#ifndef", name] => some (.unlessDefined name)
    | ["#define", name] => some (.define name)
    | ["#endif"] => some .endGroup
    | _ => none
  else none

/-- The lines that are left of a text. The open groups are kept or left out, from the innermost
outwards, and a line is kept when all of them are. -/
def preprocess (defined : List String) (groups : List Bool) :
    List (List Char) → List (List Char)
  | [] => []
  | line :: rest =>
      match directive? line with
      | some (.unlessDefined name) => preprocess defined ((name ∉ defined) :: groups) rest
      | some (.define name) =>
          preprocess (if groups.all id then name :: defined else defined) groups rest
      | some .endGroup => preprocess defined groups.tail rest
      | none =>
          if groups.all id then line :: preprocess defined groups rest
          else preprocess defined groups rest

/-- A line, or the lines of the text that it includes. -/
def expandLine (lookup : String → Option String) (line : List Char) : List (List Char) :=
  match readLine line with
  | [.includes file] => ((lookup file).map fun text => Text.lines text.toList).getD [line]
  | _ => [line]

/-- The lines of a text with those of included texts in between. -/
def expand (lookup : String → Option String) (text : String) : List (List Char) :=
  (Text.lines text.toList).flatMap (expandLine lookup)

section

variable {line : List Char} (plain : '#' ∉ line)

include plain

theorem isDirective_of_not_mem : isDirective line = false := by
  rw [isDirective, decide_eq_false_iff_not]
  intro hash
  exact plain ((List.dropWhile_sublist _).subset (List.mem_of_head? hash))

theorem directive?_of_not_mem : directive? line = none := by
  rw [directive?, isDirective_of_not_mem plain]
  rfl

theorem readLine_ne_includes (file : String) : readLine line ≠ [.includes file] := by
  have other : "#include ".toList.isPrefixOf line = false := by
    rw [Bool.eq_false_iff, Ne, List.isPrefixOf_iff_prefix]
    intro begins
    exact plain (begins.subset (by decide))
  intro read
  have included : Item.includes file ∈ readLine line := by
    rw [read]
    exact List.mem_singleton_self _
  rw [readLine, other] at included
  simp only [Bool.false_eq_true, if_false] at included
  split at included
  · simp at included
  · split at included <;> simp at included

theorem expandLine_of_not_mem (lookup : String → Option String) :
    expandLine lookup line = [line] := by
  rw [expandLine]
  split
  · rename_i file read
    exact absurd read (readLine_ne_includes plain file)
  · rfl

end

section

variable {name : String} (isWord : Text.IsWord name)

include isWord

theorem words_keyword {keyword : String} (keyword_isWord : Text.IsWord keyword) :
    Text.words (String.ofList (keyword.toList ++ ' ' :: name.toList)) = [keyword, name] := by
  rw [Text.words_word keyword_isWord (by decide), Text.words_singleton isWord]

theorem directive?_unlessDefined :
    directive? ("#ifndef " ++ name).toList = some (.unlessDefined name) := by
  have keyword : Text.IsWord "#ifndef" := ⟨by decide, by simp [Text.isBlank]⟩
  have spelled : ("#ifndef " ++ name).toList = "#ifndef".toList ++ ' ' :: name.toList := by simp
  have directive : isDirective ("#ifndef".toList ++ ' ' :: name.toList) = true := rfl
  rw [spelled, directive?, if_pos directive, words_keyword isWord keyword]
  rfl

theorem directive?_define :
    directive? ("#define " ++ name).toList = some (.define name) := by
  have keyword : Text.IsWord "#define" := ⟨by decide, by simp [Text.isBlank]⟩
  have spelled : ("#define " ++ name).toList = "#define".toList ++ ' ' :: name.toList := by simp
  have directive : isDirective ("#define".toList ++ ' ' :: name.toList) = true := rfl
  rw [spelled, directive?, if_pos directive, words_keyword isWord keyword]
  rfl

end

section

variable {defined : List String} {body : List (List Char)}
  (plain : ∀ line ∈ body, directive? line = none)

include plain

theorem preprocess_kept {groups : List Bool} (kept : groups.all id = true)
    (rest : List (List Char)) :
    preprocess defined groups (body ++ rest) = body ++ preprocess defined groups rest := by
  induction body with
  | nil => rfl
  | cons first others ih =>
      rw [List.forall_mem_cons] at plain
      rw [List.cons_append, preprocess, plain.1]
      simp only [kept, if_true, ih plain.2, List.cons_append]

theorem preprocess_left_out {groups : List Bool} (left_out : groups.all id = false)
    (rest : List (List Char)) :
    preprocess defined groups (body ++ rest) = preprocess defined groups rest := by
  induction body with
  | nil => rfl
  | cons first others ih =>
      rw [List.forall_mem_cons] at plain
      rw [List.cons_append, preprocess, plain.1]
      simp only [left_out, Bool.false_eq_true, if_false, ih plain.2]

/-- A guarded text is left out when its name is defined; otherwise it is kept and defines it. -/
theorem preprocess_guarded {name : String} (isWord : Text.IsWord name)
    (rest : List (List Char)) :
    preprocess defined [] (("#ifndef " ++ name).toList :: ("#define " ++ name).toList
        :: (body ++ "#endif".toList :: rest)) =
      if name ∈ defined then preprocess defined [] rest
      else body ++ preprocess (name :: defined) [] rest := by
  have ends : directive? "#endif".toList = some .endGroup := rfl
  rw [preprocess, directive?_unlessDefined isWord]
  simp only
  rw [preprocess, directive?_define isWord]
  by_cases present : name ∈ defined
  · simp only [present, not_true_eq_false, decide_false, List.all_cons, id, Bool.false_and,
      Bool.false_eq_true, if_false, if_true]
    rw [preprocess_left_out plain rfl, preprocess, ends]
    rfl
  · simp only [present, not_false_eq_true, decide_true, List.all_cons, List.all_nil, id,
      Bool.and_self, if_true, if_false]
    rw [preprocess_kept plain rfl, preprocess, ends]
    rfl

end

end BenchTree.Source

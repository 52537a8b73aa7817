import BenchTree.Proofs.Description.Build

/-!
# Reading CMake descriptions

Commands that stand on lines of their own are read one after another, each with the words of its
arguments. So the description of a module says that there is a library, and that of the executable
names the directories, the executable with its main source, and the libraries it is linked with.
-/

namespace BenchTree.Description.CMake

theorem read_unlines {commands : List Text.Application}
    (plain : ∀ command ∈ commands,
      Text.IsName command.name ∧ ')' ∉ command.arguments.toList) :
    read (Source.unlines (commands.map Text.Application.text)) = commands.flatMap interpret := by
  have spelled : (Source.unlines (commands.map Text.Application.text)).toList =
      commands.flatMap fun command => command.text.toList ++ ['\n'] := by
    simp [Source.unlines, List.flatMap_map]
  rw [read, spelled]
  congr 1
  clear spelled
  induction commands with
  | nil => rfl
  | cons first rest ih =>
      rcases plain first List.mem_cons_self with ⟨isName, noParenthesis⟩
      have behind_line : ∀ text, Text.applications Text.isNameLetter ('\n' :: text) =
          Text.applications Text.isNameLetter text := fun _ => rfl
      rw [List.flatMap_cons, List.append_assoc, Text.applications_text first _ isName.letters
        isName.notEmpty (by decide) noParenthesis, List.singleton_append, behind_line,
        ih fun command command_mem => plain command (List.mem_cons_of_mem _ command_mem)]

section

variable {names : List String}

theorem pieces_arguments (isWord : ∀ name ∈ names, Text.IsWord name) {first : List Char}
    (plain : ∀ character ∈ first, Text.isBlank character = false) :
    Text.pieces Text.isBlank (fun piece => !piece.isEmpty) (first ++ (arguments names).toList) =
      (if first = [] then [] else [first]) ++ names.map String.toList := by
  induction names generalizing first with
  | nil =>
      have empty : (arguments []).toList = [] := rfl
      rw [empty, List.append_nil, Text.pieces_of_plain plain]
      cases first <;> rfl
  | cons name rest ih =>
      have spelled : (arguments (name :: rest)).toList =
          ' ' :: (name.toList ++ (arguments rest).toList) := by
        simp [arguments]
      have name_word := isWord name List.mem_cons_self
      have named : name.toList ≠ [] := fun empty =>
        name_word.notEmpty (String.toList_eq_nil_iff.mp empty)
      rw [spelled, Text.pieces_piece plain (by decide),
        ih (fun other other_mem => isWord other (List.mem_cons_of_mem _ other_mem))
          name_word.noBlank, if_neg named]
      cases first <;> rfl

theorem words_arguments (isWord : ∀ name ∈ names, Text.IsWord name) :
    Text.words (arguments names) = names := by
  have read := pieces_arguments isWord (List.forall_mem_nil fun character =>
    Text.isBlank character = false)
  rw [if_pos rfl] at read
  rw [Text.words, ← List.nil_append (arguments names).toList, read]
  simp [Function.comp_def]

/-- The first word of a command's arguments stands before a list of words. -/
theorem words_append_arguments {first : String} (first_word : Text.IsWord first)
    (isWord : ∀ name ∈ names, Text.IsWord name) :
    Text.words (first ++ arguments names) = first :: names := by
  have named : first.toList ≠ [] := fun empty =>
    first_word.notEmpty (String.toList_eq_nil_iff.mp empty)
  rw [Text.words, String.toList_append, pieces_arguments isWord first_word.noBlank, if_neg named]
  simp [Function.comp_def]

theorem not_mem_arguments (isName : ∀ name ∈ names, Text.IsName name) :
    ')' ∉ (arguments names).toList := by
  simp only [arguments, String.toList_join, List.flatMap_map, List.mem_flatMap, not_exists, not_and,
    String.toList_append, List.mem_append, not_or]
  intro name name_mem
  exact ⟨by decide, (isName name name_mem).not_mem (by decide)⟩

end

/-- The commands that describe an executable. -/
def rootCommands (executable : String) (directories libraries : List String) :
    List Text.Application :=
  ⟨"cmake_minimum_required", "VERSION 2.8"⟩
    :: directories.map (fun directory => ⟨"add_subdirectory", directory⟩)
    ++ [⟨"include_directories", arguments directories⟩,
      ⟨"add_executable", executable ++ " " ++ Source.mainName⟩,
      ⟨"target_link_libraries", executable ++ arguments libraries⟩]

theorem root_eq (executable : String) (directories libraries : List String) :
    root executable directories libraries =
      Source.unlines ((rootCommands executable directories libraries).map
        Text.Application.text) := by
  simp [root, rootCommands, Text.Application.text, Function.comp_def, String.append_assoc]

section

variable {executable : String} {directories libraries : List String}
  (executable_name : Text.IsName executable)
  (directory_names : ∀ directory ∈ directories, Text.IsName directory)
  (library_names : ∀ library ∈ libraries, Text.IsName library)

include executable_name directory_names library_names

theorem rootCommands_plain :
    ∀ command ∈ rootCommands executable directories libraries,
      Text.IsName command.name ∧ ')' ∉ command.arguments.toList := by
  have executable_plain := executable_name.not_mem (show Text.isNameLetter ')' = false by decide)
  intro command command_mem
  simp only [rootCommands, List.cons_append, List.mem_cons, List.mem_append, List.mem_map,
    List.not_mem_nil, or_false] at command_mem
  rcases command_mem with rfl | ⟨directory, directory_mem, rfl⟩ | rfl | rfl | rfl
  · exact ⟨.of_all "cmake_minimum_required" (by decide) (by decide), by decide⟩
  · exact ⟨.of_all "add_subdirectory" (by decide) (by decide),
      (directory_names directory directory_mem).not_mem (by decide)⟩
  · exact ⟨.of_all "include_directories" (by decide) (by decide), not_mem_arguments directory_names⟩
  · exact ⟨.of_all "add_executable" (by decide) (by decide),
      by simpa [Source.mainName] using executable_plain⟩
  · exact ⟨.of_all "target_link_libraries" (by decide) (by decide),
      by simpa [executable_plain] using not_mem_arguments library_names⟩

theorem read_root :
    read (root executable directories libraries) =
      directories.map .subdirectory ++ directories.map .includeDirectory
        ++ .executable executable :: .compiles executable Source.mainName
        :: libraries.map (.links executable) := by
  have directory_words := fun directory directory_mem =>
    (directory_names directory directory_mem).isWord
  have library_words := fun library library_mem => (library_names library library_mem).isWord
  have main_word : ∀ name ∈ [Source.mainName], Text.IsWord name := by
    intro name name_mem
    rw [List.mem_singleton.mp name_mem]
    exact ⟨by decide, by simp [Source.mainName, Text.isBlank]⟩
  have main_arguments : executable ++ " " ++ Source.mainName =
      executable ++ arguments [Source.mainName] := by
    simp [arguments, String.append_assoc]
  have subdirectories : directories.flatMap
        (fun directory => interpret ⟨"add_subdirectory", directory⟩) =
      directories.map .subdirectory := by
    rw [← List.flatMap_pure_eq_map]
    apply List.flatMap_congr
    intro directory directory_mem
    simp [interpret, Text.words_singleton (directory_words directory directory_mem)]
  rw [root_eq, read_unlines (rootCommands_plain executable_name directory_names library_names)]
  simp only [rootCommands, List.flatMap_append, List.flatMap_cons, List.flatMap_nil,
    List.flatMap_map, subdirectories]
  simp [interpret, words_arguments directory_words, main_arguments,
    words_append_arguments executable_name.isWord library_words,
    words_append_arguments executable_name.isWord main_word]

end

/-- The arguments of the command that describes a library. -/
def moduleArguments (name : String) (files : Nat) : String :=
  name ++ " SHARED"
    ++ String.join ((List.range files).map fun file => " " ++ Source.sourceName file ++ "\n")

theorem module_eq (name : String) (files : Nat) :
    module name files =
      Source.unlines ([⟨"add_library", moduleArguments name files⟩].map Text.Application.text) := by
  simp [module, moduleArguments, Source.unlines, Text.Application.text, String.append_assoc]

theorem read_module {name : String} (isName : Text.IsName name) (files : Nat) :
    read (module name files) = [.library name] := by
  have plain : ∀ command ∈ [(⟨"add_library", moduleArguments name files⟩ : Text.Application)],
      Text.IsName command.name ∧ ')' ∉ command.arguments.toList := by
    intro command command_mem
    rw [List.mem_singleton.mp command_mem]
    refine ⟨.of_all "add_library" (by decide) (by decide), ?_⟩
    simp [moduleArguments, isName.not_mem (show Text.isNameLetter ')' = false by decide),
      Text.not_mem_numeral]
  have spelled : moduleArguments name files = String.ofList (name.toList ++
      ' ' :: ("SHARED" ++ String.join ((List.range files).map
        fun file => " " ++ Source.sourceName file ++ "\n")).toList) := by
    rw [← String.toList_inj]
    simp [moduleArguments]
  rw [module_eq, read_unlines plain, List.flatMap_singleton, spelled]
  simp only [interpret, Text.words_word isName.isWord (show Text.isBlank ' ' = true by decide)]

end BenchTree.Description.CMake

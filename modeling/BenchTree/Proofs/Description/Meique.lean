import BenchTree.Proofs.Description.Build

/-!
# Reading meique descriptions

Each line of a script assigns a new object to a variable of its name or calls a function or a
method. The list of the sources of a library spans several lines, which say nothing else. So the
description of a module says that there is a library, and that of the executable names, module by
module, a directory and the library in it.
-/

namespace BenchTree.Description.Meique

theorem read_unlines {texts : List String} (plain : ∀ text ∈ texts, '\n' ∉ text.toList) :
    read (Source.unlines texts) = texts.flatMap fun text => readLine text.toList := by
  have end_read : readLine [] = [] := rfl
  rw [read, Text.lines_unlines plain, List.flatMap_append, List.flatMap_map,
    List.flatMap_singleton, end_read, List.append_nil]

theorem readLine_of_open {line : List Char} (unassigned : '=' ∉ line) (plain : ')' ∉ line) :
    readLine line = [] := by
  rw [readLine, Text.pieces_of_not_mem unassigned]
  simp only [Text.applications, Text.applicationsFrom_of_open _ _ plain, List.flatMap_nil]

/-- An application that is a call of its own: it holds no assignment, and its first closing
parenthesis is its last. -/
structure IsCall (call : Text.Application) : Prop where
  letters : ∀ letter ∈ call.name.toList, isCallLetter letter = true
  named : call.name ≠ ""
  noParenthesis : ')' ∉ call.arguments.toList
  unassigned : '=' ∉ call.arguments.toList

namespace IsCall

variable {call : Text.Application}

theorem applications_text (isCall : IsCall call) :
    Text.applications isCallLetter call.text.toList = [call] := by
  have read := Text.applications_text call [] isCall.letters isCall.named (by decide)
    isCall.noParenthesis
  rwa [List.append_nil] at read

theorem unassigned_text (isCall : IsCall call) : '=' ∉ call.text.toList := by
  have name_unassigned : '=' ∉ call.name.toList := by
    intro letter_mem
    have letter := isCall.letters '=' letter_mem
    revert letter
    decide
  simp [Text.Application.text, name_unassigned, isCall.unassigned]

theorem readLine_text (isCall : IsCall call) : readLine call.text.toList = interpret call := by
  rw [readLine, Text.pieces_of_not_mem isCall.unassigned_text]
  simp only [isCall.applications_text, List.flatMap_singleton]

/-- An assignment is read as the variable and the call that makes its value. -/
theorem readLine_assigned (isCall : IsCall call) {assigned : String}
    (isName : Text.IsName assigned) :
    readLine (assigned ++ " = " ++ call.text).toList = interpretAssigned [assigned] call := by
  have spelled : (assigned ++ " = " ++ call.text).toList =
      (assigned.toList ++ [' ']) ++ '=' :: (' ' :: call.text.toList) := by
    simp
  have pieces : Text.pieces (· == '=') (fun _ => true)
      ((assigned.toList ++ [' ']) ++ '=' :: (' ' :: call.text.toList)) =
        [assigned.toList ++ [' '], ' ' :: call.text.toList] := by
    rw [Text.pieces_append_cons _ _ (by rfl), Text.pieces_of_not_mem, Text.pieces_of_not_mem]
    · rfl
    · simp [isCall.unassigned_text]
    · simp [isName.not_mem (show Text.isNameLetter '=' = false by decide)]
  have behind_blank : Text.applications isCallLetter (' ' :: call.text.toList) =
      Text.applications isCallLetter call.text.toList := rfl
  have word : Text.words (String.ofList (assigned.toList ++ [' '])) = [assigned] :=
    Text.words_word isName.isWord (show Text.isBlank ' ' = true by decide) ""
  rw [spelled, readLine, pieces]
  simp only [behind_blank, isCall.applications_text, word, List.flatMap_singleton]

end IsCall

theorem isCallLetter_of_isName {name : String} (isName : Text.IsName name) :
    ∀ letter ∈ name.toList, isCallLetter letter = true := by
  intro letter letter_mem
  rw [isCallLetter, isName.letters letter letter_mem, Bool.true_or]

section

variable {target method : String} (target_name : Text.IsName target)
  (method_name : Text.IsName method)

include target_name method_name

/-- A method is called by the name of its object and its own, with a colon between them. -/
theorem isCall_method {arguments : String} (noParenthesis : ')' ∉ arguments.toList)
    (unassigned : '=' ∉ arguments.toList) : IsCall ⟨target ++ ":" ++ method, arguments⟩ := by
  refine ⟨?_, by simp, noParenthesis, unassigned⟩
  simp only [String.toList_append, List.mem_append]
  rintro letter ((letter_mem | colon_mem) | letter_mem)
  · exact isCallLetter_of_isName target_name letter letter_mem
  · rw [List.mem_singleton.mp colon_mem]
    rfl
  · exact isCallLetter_of_isName method_name letter letter_mem

theorem interpret_method (arguments : String) :
    interpret ⟨target ++ ":" ++ method, arguments⟩ = interpretMethod target method arguments := by
  have target_plain := target_name.not_mem (show Text.isNameLetter ':' = false by decide)
  have method_plain := method_name.not_mem (show Text.isNameLetter ':' = false by decide)
  have spelled : (target ++ ":" ++ method).toList = target.toList ++ ':' :: method.toList := by
    simp
  rw [interpret, spelled, Text.pieces_append_cons _ _ (by rfl),
    Text.pieces_of_not_mem target_plain, Text.pieces_of_not_mem method_plain]
  simp only [List.map_cons, List.map_nil, List.cons_append, List.nil_append,
    String.ofList_toList]

theorem readLine_method {opening arguments : String} (opens : opening = ":" ++ method ++ "(")
    (noParenthesis : ')' ∉ arguments.toList) (unassigned : '=' ∉ arguments.toList) :
    readLine (target ++ opening ++ arguments ++ ")").toList =
      interpretMethod target method arguments := by
  have isCall := isCall_method target_name method_name noParenthesis unassigned
  have spelled : target ++ opening ++ arguments ++ ")" =
      (⟨target ++ ":" ++ method, arguments⟩ : Text.Application).text := by
    rw [opens, Text.Application.text]
    simp only [String.append_assoc]
  rw [spelled, isCall.readLine_text, interpret_method target_name method_name]

end

theorem quotations_quoted {text : String} (plain : '"' ∉ text.toList) :
    Text.quotations (quoted text).toList = [text] := by
  have spelled : (quoted text).toList = [] ++ '"' :: text.toList ++ '"' :: [] := by
    simp [quoted]
  rw [spelled, Text.quotations_quoted (by simp) plain, String.ofList_toList]
  rfl

/-- A list of quotations is read back. -/
theorem quotations_intercalate {texts : List String}
    (plain : ∀ text ∈ texts, '"' ∉ text.toList) :
    Text.quotations (", ".intercalate (texts.map quoted)).toList = texts := by
  induction texts with
  | nil => rfl
  | cons first rest ih =>
      have first_plain := plain first List.mem_cons_self
      cases rest with
      | nil => simpa using quotations_quoted first_plain
      | cons second later =>
          have spelled : (", ".intercalate ((first :: second :: later).map quoted)).toList =
              [] ++ '"' :: first.toList ++ '"' :: (", ".toList
                ++ (", ".intercalate ((second :: later).map quoted)).toList) := by
            simp [quoted]
          have behind_comma : ∀ text, Text.quotations (", ".toList ++ text) =
              Text.quotations text := fun _ => rfl
          rw [spelled, Text.quotations_quoted (by simp) first_plain, behind_comma,
            ih fun text text_mem => plain text (List.mem_cons_of_mem _ text_mem),
            String.ofList_toList]

theorem not_mem_quoted {text : String} (isName : Text.IsName text) {character : Char}
    (other : Text.isNameLetter character = false) (character_ne : character ≠ '"') :
    character ∉ (quoted text).toList := by
  simp [quoted, isName.not_mem other, character_ne]

theorem not_mem_intercalate {texts : List String} (isName : ∀ text ∈ texts, Text.IsName text)
    {character : Char} (other : Text.isNameLetter character = false)
    (character_ne : character ≠ '"') (not_separator : character ∉ ", ".toList) :
    character ∉ (", ".intercalate (texts.map quoted)).toList := by
  induction texts with
  | nil => simp
  | cons first rest ih =>
      have later := ih fun text text_mem => isName text (List.mem_cons_of_mem _ text_mem)
      have here := not_mem_quoted (isName first List.mem_cons_self) other character_ne
      cases rest with
      | nil => simpa using here
      | cons second others =>
          rw [List.map_cons, List.map_cons, String.intercalate_cons_cons]
          simp only [String.toList_append, List.mem_append, not_or]
          exact ⟨⟨here, not_separator⟩, later⟩

section

variable {name : String} (isName : Text.IsName name)

include isName

theorem readLine_executable :
    readLine (name ++ " = Executable:new(" ++ quoted name ++ ")").toList =
      [.executable name] := by
  have isCall : IsCall ⟨"Executable:new", quoted name⟩ :=
    isCall_method (.of_all "Executable" (by decide) (by decide))
      (.of_all "new" (by decide) (by decide)) (not_mem_quoted isName (by decide) (by decide))
      (not_mem_quoted isName (by decide) (by decide))
  have spelled : name ++ " = Executable:new(" ++ quoted name ++ ")" =
      name ++ " = " ++ (⟨"Executable:new", quoted name⟩ : Text.Application).text := by
    rw [← String.toList_inj]
    simp [Text.Application.text]
  rw [spelled, isCall.readLine_assigned isName]
  simp [interpretAssigned, quotations_quoted (isName.not_mem (by decide))]

theorem readLine_library :
    readLine (name ++ " = Library:new(\"" ++ name ++ "\", SHARED)").toList = [.library name] := by
  have isCall : IsCall ⟨"Library:new", quoted name ++ ", SHARED"⟩ := by
    apply isCall_method (.of_all "Library" (by decide) (by decide))
      (.of_all "new" (by decide) (by decide))
    · simpa using not_mem_quoted isName (show Text.isNameLetter ')' = false by decide) (by decide)
    · simpa using not_mem_quoted isName (show Text.isNameLetter '=' = false by decide) (by decide)
  have spelled : name ++ " = Library:new(\"" ++ name ++ "\", SHARED)" =
      name ++ " = " ++ (⟨"Library:new", quoted name ++ ", SHARED"⟩ : Text.Application).text := by
    rw [← String.toList_inj]
    simp [Text.Application.text, quoted]
  have quotations : Text.quotations (quoted name ++ ", SHARED").toList = [name] := by
    have quotation : (quoted name ++ ", SHARED").toList =
        [] ++ '"' :: name.toList ++ '"' :: ", SHARED".toList := by
      simp [quoted]
    rw [quotation, Text.quotations_quoted (by simp) (isName.not_mem (by decide)),
      String.ofList_toList]
    rfl
  rw [spelled, isCall.readLine_assigned isName, interpretAssigned, quotations, if_pos rfl]
  rfl

theorem readLine_addFile :
    readLine (name ++ ":addFile(" ++ quoted Source.mainName ++ ")").toList =
      [.compiles name Source.mainName] := by
  rw [readLine_method isName (.of_all "addFile" (by decide) (by decide))
    (show ":addFile(" = ":" ++ "addFile" ++ "(" from rfl) (by decide) (by decide)]
  rfl

theorem readLine_use {library : String} (library_name : Text.IsName library) :
    readLine (name ++ ":use(" ++ library ++ ")").toList = [.links name library] := by
  rw [readLine_method isName (.of_all "use" (by decide) (by decide))
    (show ":use(" = ":" ++ "use" ++ "(" from rfl)
    (library_name.not_mem (by decide)) (library_name.not_mem (by decide))]
  simp only [interpretMethod, Text.words_singleton library_name.isWord, List.map_cons,
    List.map_nil]

theorem readLine_addIncludeDirs {directories : List String}
    (directory_names : ∀ directory ∈ directories, Text.IsName directory) :
    readLine (name ++ ":addIncludeDirs(" ++ ", ".intercalate (directories.map quoted)
      ++ ")").toList = directories.map .includeDirectory := by
  rw [readLine_method isName (.of_all "addIncludeDirs" (by decide) (by decide))
    (show ":addIncludeDirs(" = ":" ++ "addIncludeDirs" ++ "(" from rfl)
    (not_mem_intercalate directory_names (by decide) (by decide) (by decide))
    (not_mem_intercalate directory_names (by decide) (by decide) (by decide))]
  have noQuote : Text.isNameLetter '"' = false := by decide
  simp only [interpretMethod, quotations_intercalate fun directory directory_mem =>
    (directory_names directory directory_mem).not_mem noQuote]

end

theorem readLine_addSubdirectory {directory : String} (isName : Text.IsName directory) :
    readLine ("addSubdirectory(" ++ quoted directory ++ ")").toList =
      [.subdirectory directory] := by
  have function_name : Text.IsName "addSubdirectory" :=
    .of_all "addSubdirectory" (by decide) (by decide)
  have isCall : IsCall ⟨"addSubdirectory", quoted directory⟩ :=
    ⟨isCallLetter_of_isName function_name, function_name.notEmpty,
      not_mem_quoted isName (by decide) (by decide),
      not_mem_quoted isName (by decide) (by decide)⟩
  have spelled : "addSubdirectory(" ++ quoted directory ++ ")" =
      (⟨"addSubdirectory", quoted directory⟩ : Text.Application).text := by
    simp [Text.Application.text, String.append_assoc]
  rw [spelled, isCall.readLine_text, interpret,
    Text.pieces_of_not_mem (function_name.not_mem (by decide)),
    quotations_quoted (isName.not_mem (by decide))]
  rfl

/-- The lines that describe an executable hold no line feed of their own. -/
theorem not_mem_rootLines {executable : String} (executable_name : Text.IsName executable)
    {modules : List (String × String)}
    (names : ∀ module ∈ modules, Text.IsName module.1 ∧ Text.IsName module.2) :
    ∀ text ∈ [executable ++ " = Executable:new(" ++ quoted executable ++ ")",
        executable ++ ":addFile(" ++ quoted Source.mainName ++ ")"]
      ++ modules.flatMap (fun (directory, library) => useLines executable directory library)
      ++ [executable ++ ":addIncludeDirs("
        ++ ", ".intercalate (modules.map fun (directory, _) => quoted directory) ++ ")"],
      '\n' ∉ text.toList := by
  have newline : Text.isNameLetter '\n' = false := by decide
  have executable_plain := executable_name.not_mem newline
  have quoted_plain := not_mem_quoted executable_name newline (by decide)
  have directories_plain : '\n' ∉
      (", ".intercalate (modules.map fun (directory, _) => quoted directory)).toList := by
    have directory_names : ∀ directory ∈ modules.map Prod.fst, Text.IsName directory :=
      List.forall_mem_map.mpr fun module module_mem => (names module module_mem).1
    have plain := not_mem_intercalate directory_names newline (by decide) (by decide)
    rwa [List.map_map] at plain
  intro text text_mem
  simp only [List.mem_append, List.mem_cons, List.mem_flatMap, List.not_mem_nil,
    or_false] at text_mem
  rcases text_mem with ((rfl | rfl) | ⟨⟨directory, library⟩, module_mem, text_mem⟩) | rfl
  · simp [executable_plain, quoted_plain]
  · simp [executable_plain, quoted, Source.mainName]
  · rcases names _ module_mem with ⟨directory_name, library_name⟩
    rcases List.mem_pair.mp text_mem with rfl | rfl
    · simp [not_mem_quoted directory_name newline]
    · simp [executable_plain, library_name.not_mem newline]
  · simpa [executable_plain] using directories_plain

theorem read_root {executable : String} (executable_name : Text.IsName executable)
    {modules : List (String × String)}
    (names : ∀ module ∈ modules, Text.IsName module.1 ∧ Text.IsName module.2) :
    read (root executable modules) =
      .executable executable :: .compiles executable Source.mainName
        :: modules.flatMap (fun (directory, library) =>
          [.subdirectory directory, .links executable library])
        ++ modules.map (fun (directory, _) => .includeDirectory directory) := by
  have directory_names : ∀ directory ∈ modules.map Prod.fst, Text.IsName directory :=
    List.forall_mem_map.mpr fun module module_mem => (names module module_mem).1
  have includeDirs := readLine_addIncludeDirs executable_name directory_names
  rw [List.map_map, List.map_map] at includeDirs
  have uses : modules.flatMap (fun (directory, library) =>
        (useLines executable directory library).flatMap fun text => readLine text.toList) =
      modules.flatMap fun (directory, library) =>
        [.subdirectory directory, .links executable library] := by
    apply List.flatMap_congr
    rintro ⟨directory, library⟩ module_mem
    rcases names _ module_mem with ⟨directory_name, library_name⟩
    simp only [useLines, List.flatMap_cons, List.flatMap_nil, List.append_nil,
      readLine_addSubdirectory directory_name, readLine_use executable_name library_name,
      List.cons_append, List.nil_append]
  rw [root, read_unlines (not_mem_rootLines executable_name names)]
  simp only [List.flatMap_append, List.flatMap_cons, List.flatMap_nil, List.append_nil,
    List.flatMap_assoc, readLine_executable executable_name, readLine_addFile executable_name,
    uses]
  exact congrArg _ includeDirs

theorem read_module {name : String} (isName : Text.IsName name) (files : Nat) :
    read (module name files) = [.library name] := by
  have sources : (List.range files).flatMap
      (fun file => readLine (Source.sourceName file).toList) = [] := by
    rw [List.flatMap_eq_nil_iff]
    intro file _
    apply readLine_of_open
    · simp [Text.not_mem_numeral]
    · simp [Text.not_mem_numeral]
  have opening : readLine (name ++ ":addFiles([[").toList = [] := by
    apply readLine_of_open
    · simp [isName.not_mem (show Text.isNameLetter '=' = false by decide)]
    · simp [isName.not_mem (show Text.isNameLetter ')' = false by decide)]
  have closing : readLine "]])".toList = [] := rfl
  rw [module, read_unlines]
  · simp only [List.flatMap_append, List.flatMap_cons, List.flatMap_nil, List.append_nil,
      List.flatMap_map, readLine_library isName, sources, opening, closing]
  · have name_plain := isName.not_mem (show Text.isNameLetter '\n' = false by decide)
    simp [or_imp, forall_and, name_plain, Text.not_mem_numeral]

end BenchTree.Description.Meique

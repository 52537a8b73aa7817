import BenchTree.Proofs.Text.Reading
import BenchTree.Proofs.Tree.Artifact

/-!
# Reading the generated C texts

A C text is read line by line. An include line names a file. At the margin, a line that ends with a
semicolon declares a function and one that ends with an opening brace defines one: the function
whose parameters stand last in the line. Indented lines belong to a body, and each application in
them is a call. The rendered headers, sources and main sources are read back completely: what they
include, declare, define and call, in order.
-/

namespace BenchTree.Source

/-- What a C text says about files and functions. -/
inductive Item where
  | includes (file : String)
  | declares (function : String)
  | defines (function : String)
  | calls (function arguments : String)
  deriving DecidableEq, Repr

/-- What a line of a header or a source holds. -/
def readLine (line : List Char) : List Item :=
  let applications := Text.applications Text.isNameLetter line
  if "#include ".toList.isPrefixOf line then (Text.quotations line).map .includes
  else if line.head? = some ' ' then
    applications.map fun application => .calls application.name application.arguments
  else match applications.getLast?, line.getLast? with
    | some application, some ';' => [.declares application.name]
    | some application, some '\x7b' => [.defines application.name]
    | _, _ => []

/-- What a C text says, in order. -/
def items (text : String) : List Item := (Text.lines text.toList).flatMap readLine

/-- The calls in the body of a function. -/
def body (function : String) (items : List Item) : List Item :=
  (items.dropWhile (· ≠ .defines function)).tail.takeWhile fun
    | .calls _ _ => true
    | _ => false

/-- The function that the source of a file defines. -/
def functionName (file : Nat) : String := s!"func{file}"

/-- The function that initializes a module. -/
def initializerName (module : Nat) : String := s!"initModule{module}"

@[simp]
theorem toList_functionName (file : Nat) :
    (functionName file).toList = "func".toList ++ Nat.toDigits 10 file := by
  have spelled : functionName file = "func" ++ file.repr := rfl
  simp [spelled]

@[simp]
theorem toList_initializerName (module : Nat) :
    (initializerName module).toList = "initModule".toList ++ Nat.toDigits 10 module := by
  have spelled : initializerName module = "initModule" ++ module.repr := rfl
  simp [spelled]

theorem functionName_inj {left right : Nat} :
    functionName left = functionName right ↔ left = right := by
  rw [← String.toList_inj]
  simp [numeral_inj]

theorem initializerName_inj {left right : Nat} :
    initializerName left = initializerName right ↔ left = right := by
  rw [← String.toList_inj]
  simp [numeral_inj]

theorem functionName_ne_initializerName (file module : Nat) :
    functionName file ≠ initializerName module := by
  rw [Ne, ← String.toList_inj]
  simp

theorem items_unlines {texts : List String} (plain : ∀ text ∈ texts, '\n' ∉ text.toList) :
    items (unlines texts) = texts.flatMap fun text => readLine text.toList := by
  have end_read : readLine [] = [] := rfl
  rw [items, Text.lines_unlines plain, List.flatMap_append, List.flatMap_map,
    List.flatMap_singleton, end_read, List.append_nil]

theorem readLine_include {file : String} (plain : '"' ∉ file.toList) :
    readLine ("#include \"" ++ file ++ "\"").toList = [.includes file] := by
  have spelled : ("#include \"" ++ file ++ "\"").toList =
      "#include ".toList ++ '"' :: file.toList ++ '"' :: [] := by
    simp
  have quoted : Text.quotations ("#include ".toList ++ '"' :: file.toList ++ '"' :: []) =
      [file] := by
    rw [Text.quotations_quoted (by decide) plain, String.ofList_toList]
    rfl
  rw [spelled, readLine, if_pos (by simp), quoted]
  rfl

section

variable {name : String} {parameters : List Char}

/-- Behind a type, a name and its parameters are read before what follows them. -/
theorem applications_typed (isName : Text.IsName name) (plain : ')' ∉ parameters)
    (rest : List Char) :
    Text.applications Text.isNameLetter
        ("int ".toList ++ (name.toList ++ '(' :: (parameters ++ ')' :: rest))) =
      ⟨name, String.ofList parameters⟩ :: Text.applications Text.isNameLetter rest := by
  have behind_type : ∀ text, Text.applications Text.isNameLetter ("int ".toList ++ text) =
      Text.applications Text.isNameLetter text := fun _ => rfl
  rw [behind_type, Text.applications_application rest isName.letters isName.toList_ne_nil
    (by decide) plain, String.ofList_toList]

theorem readLine_declaration (isName : Text.IsName name) (plain : ')' ∉ parameters) :
    readLine ("int ".toList ++ (name.toList ++ '(' :: (parameters ++ ')' :: [';']))) =
      [.declares name] := by
  have behind : Text.applications Text.isNameLetter [';'] = [] := rfl
  rw [readLine, applications_typed isName plain, behind]
  simp [List.getLast?_append, List.getLast?_cons]

theorem readLine_attributed (isName : Text.IsName name) (plain : ')' ∉ parameters) :
    readLine ("__attribute__ ((visibility(\"default\"))) ".toList
        ++ ("int ".toList ++ (name.toList ++ '(' :: (parameters ++ ')' :: [';'])))) =
      [.declares name] := by
  have behind : Text.applications Text.isNameLetter [';'] = [] := rfl
  have behind_attribute : ∀ text, Text.applications Text.isNameLetter
      ("__attribute__ ((visibility(\"default\"))) ".toList ++ text) =
      ⟨"visibility", "\"default\""⟩ :: Text.applications Text.isNameLetter text := fun _ => rfl
  rw [readLine, behind_attribute, applications_typed isName plain, behind]
  simp [List.getLast?_append, List.getLast?_cons]

theorem readLine_definition (isName : Text.IsName name) (plain : ')' ∉ parameters) :
    readLine ("int ".toList ++ (name.toList ++ '(' :: (parameters ++ ')' :: [' ', '\x7b']))) =
      [.defines name] := by
  have behind : Text.applications Text.isNameLetter [' ', '\x7b'] = [] := rfl
  rw [readLine, applications_typed isName plain, behind]
  simp [List.getLast?_append, List.getLast?_cons]

theorem readLine_indented (line : List Char) :
    readLine (' ' :: line) = (Text.applications Text.isNameLetter (' ' :: line)).map
      fun application => .calls application.name application.arguments := by
  rw [readLine, if_neg (by simp), if_pos List.head?_cons]

end

theorem isName_functionName (file : Nat) : Text.IsName (functionName file) :=
  .of_numeral "func".toList file (by decide) (by simp)

theorem isName_initializerName (module : Nat) : Text.IsName (initializerName module) :=
  .of_numeral "initModule".toList module (by decide) (by simp)

theorem readLine_functionDeclaration (file : Nat) :
    readLine ("int func" ++ toString file ++ "(int a, int b);").toList =
      [.declares (functionName file)] := by
  have spelled : ("int func" ++ toString file ++ "(int a, int b);").toList =
      "int ".toList ++ ((functionName file).toList ++
        '(' :: ("int a, int b".toList ++ ')' :: [';'])) := by
    simp
  rw [spelled]
  exact readLine_declaration (isName_functionName file) (by decide)

theorem readLine_initializerDeclaration (module : Nat) :
    readLine ("__attribute__ ((visibility(\"default\"))) int initModule" ++ toString module
      ++ "(int);").toList = [.declares (initializerName module)] := by
  have spelled : ("__attribute__ ((visibility(\"default\"))) int initModule" ++ toString module
      ++ "(int);").toList = "__attribute__ ((visibility(\"default\"))) ".toList
        ++ ("int ".toList ++ ((initializerName module).toList ++
          '(' :: ("int".toList ++ ')' :: [';']))) := by
    simp
  rw [spelled]
  exact readLine_attributed (isName_initializerName module) (by decide)

theorem readLine_functionDefinition (file : Nat) :
    readLine ("int func" ++ toString file ++ "(int a, int b) \x7b").toList =
      [.defines (functionName file)] := by
  have spelled : ("int func" ++ toString file ++ "(int a, int b) \x7b").toList =
      "int ".toList ++ ((functionName file).toList ++
        '(' :: ("int a, int b".toList ++ ')' :: [' ', '\x7b'])) := by
    simp
  rw [spelled]
  exact readLine_definition (isName_functionName file) (by decide)

theorem readLine_initializerDefinition (module : Nat) :
    readLine ("int initModule" ++ toString module ++ "(int a) \x7b").toList =
      [.defines (initializerName module)] := by
  have spelled : ("int initModule" ++ toString module ++ "(int a) \x7b").toList =
      "int ".toList ++ ((initializerName module).toList ++
        '(' :: ("int a".toList ++ ')' :: [' ', '\x7b'])) := by
    simp
  rw [spelled]
  exact readLine_definition (isName_initializerName module) (by decide)

/-- The calls of dependencies are read term by term. -/
theorem applicationsFrom_callTerms (letters : List Char) (dependencies : List Nat) :
    Text.applicationsFrom Text.isNameLetter (.word letters)
        (dependencies.flatMap (fun file => (callTerm file).toList) ++ [';']) =
      dependencies.map fun file => ⟨functionName file, "a, b"⟩ := by
  induction dependencies generalizing letters with
  | nil => rfl
  | cons first rest ih =>
      have spelled : (callTerm first).toList ++
          (rest.flatMap (fun file => (callTerm file).toList) ++ [';']) =
          " +".toList ++ ' ' :: ((functionName first).toList ++ '(' :: ("a, b".toList ++ ')' ::
            (rest.flatMap (fun file => (callTerm file).toList) ++ [';']))) := by
        simp [callTerm]
      rw [List.flatMap_cons, List.append_assoc, spelled,
        Text.applicationsFrom_append_cons _ _ _ (by decide) (by decide) (by decide),
        Text.applications_application _ (isName_functionName first).letters
          (isName_functionName first).toList_ne_nil (by decide)
          (by decide), String.ofList_toList, Text.applications, ih, List.map_cons]
      rfl

theorem readLine_return (dependencies : List Nat) :
    readLine ("    return a + b" ++ String.join (dependencies.map callTerm) ++ ";").toList =
      dependencies.map fun file => .calls (functionName file) "a, b" := by
  have spelled : ("    return a + b" ++ String.join (dependencies.map callTerm) ++ ";").toList =
      ' ' :: ("   return a + b".toList ++
        (dependencies.flatMap (fun file => (callTerm file).toList) ++ [';'])) := by
    simp [List.flatMap_map]
  have behind_sum : ∀ text, Text.applications Text.isNameLetter
      (' ' :: ("   return a + b".toList ++ text)) =
      Text.applicationsFrom Text.isNameLetter (.word ['b']) text := fun _ => rfl
  rw [spelled, readLine_indented, behind_sum, applicationsFrom_callTerms, List.map_map]
  rfl

@[simp]
theorem toList_initializerCallLine (module : Nat) :
    (initializerCallLine module).toList = "    initModule".toList ++ Nat.toDigits 10 module
      ++ "(".toList ++ Nat.toDigits 10 module ++ ");".toList := by
  have spelled : initializerCallLine module =
      "    initModule" ++ module.repr ++ "(" ++ module.repr ++ ");" := rfl
  simp [spelled]

theorem readLine_initializerCall (module : Nat) :
    readLine (initializerCallLine module).toList =
      [.calls (initializerName module) (toString module)] := by
  have spelled : (initializerCallLine module).toList =
      ' ' :: ("   ".toList ++ ((initializerName module).toList ++
        '(' :: (Nat.toDigits 10 module ++ ')' :: [';']))) := by
    simp
  have behind_blanks : ∀ text,
      Text.applications Text.isNameLetter (' ' :: ("   ".toList ++ text)) =
        Text.applications Text.isNameLetter text := fun _ => rfl
  have behind : Text.applications Text.isNameLetter [';'] = [] := rfl
  rw [spelled, readLine_indented, behind_blanks,
    Text.applications_application _ (isName_initializerName module).letters
          (isName_initializerName module).toList_ne_nil (by decide)
      (Text.not_mem_numeral (by decide)), behind, String.ofList_toList]
  rfl

theorem readLine_plain {line : List Char} (plain : '(' ∉ line)
    (other : "#include ".toList.isPrefixOf line = false) : readLine line = [] := by
  rw [readLine, Text.applications_of_plain line plain, other]
  simp

@[simp]
theorem toList_includeGuard (module file : Nat) :
    (includeGuard module file).toList = "MODULE".toList ++ Nat.toDigits 10 module
      ++ "_HEADER".toList ++ Nat.toDigits 10 file ++ "_H".toList := by
  have spelled : includeGuard module file =
      "MODULE" ++ module.repr ++ "_HEADER" ++ file.repr ++ "_H" := rfl
  simp [spelled]

theorem readLine_guard (module file : Nat) :
    readLine ("#ifndef " ++ includeGuard module file).toList = [] ∧
      readLine ("#define " ++ includeGuard module file).toList = [] := by
  constructor
  · apply readLine_plain
    · simp [Text.not_mem_numeral]
    · rw [String.toList_append]
      rfl
  · apply readLine_plain
    · simp [Text.not_mem_numeral]
    · rw [String.toList_append]
      rfl

theorem readLine_includeLine (file : Nat) :
    readLine (includeLine file).toList = [.includes (headerName file)] :=
  readLine_include (by simp [Text.not_mem_numeral])

theorem readLine_entryIncludeLine (module : Nat) :
    readLine (entryIncludeLine module).toList = [.includes (moduleDirectory module ++ "/0.h")] := by
  have spelled : entryIncludeLine module =
      "#include \"" ++ (moduleDirectory module ++ "/0.h") ++ "\"" := by
    simp [entryIncludeLine, String.append_assoc]
  rw [spelled]
  exact readLine_include (by simp [Text.not_mem_numeral])

theorem items_initializerDeclaration (module file : Nat) :
    (initializerDeclaration module file).flatMap (fun text => readLine text.toList) =
      if file = 0 then [Item.declares (initializerName module)] else [] := by
  by_cases entry : file = 0
  · rw [initializerDeclaration, if_pos entry, if_pos entry, List.flatMap_singleton,
      readLine_initializerDeclaration]
  · rw [initializerDeclaration, if_neg entry, if_neg entry, List.flatMap_nil]

theorem items_initializerDefinition (module file : Nat) :
    (initializerDefinition module file).flatMap (fun text => readLine text.toList) =
      if file = 0 then
        [Item.defines (initializerName module), Item.calls (functionName 0) "a, a + 1"]
      else [] := by
  have brace : readLine "\x7d".toList = [] := rfl
  have entry_call : readLine "    return func0(a, a + 1);".toList =
      [Item.calls (functionName 0) "a, a + 1"] := rfl
  by_cases entry : file = 0
  · rw [initializerDefinition, if_pos entry, if_pos entry]
    simp only [List.flatMap_cons, List.flatMap_nil, readLine_initializerDefinition, entry_call,
      brace, List.cons_append, List.nil_append]
  · rw [initializerDefinition, if_neg entry, if_neg entry, List.flatMap_nil]

/-- A header declares the function of its file, and the entry header also the initializer. -/
theorem items_header (module file : Nat) :
    items (header module file) =
      (if file = 0 then [Item.declares (initializerName module)] else [])
        ++ [Item.declares (functionName file)] := by
  have last : readLine "#endif".toList = [] := rfl
  rw [header, items_unlines]
  · simp only [List.flatMap_append, List.flatMap_cons, List.flatMap_nil, readLine_guard,
      items_initializerDeclaration, readLine_functionDeclaration, last, List.nil_append,
      List.append_nil]
  · by_cases entry : file = 0
    · simp [initializerDeclaration, entry, Text.not_mem_numeral]
    · simp [initializerDeclaration, entry, Text.not_mem_numeral]

theorem lines_source (module file : Nat) (shape : Shape) :
    Text.lines (source module file shape).toList =
      ((shape.dependencies file).map includeLine
        ++ ["int func" ++ toString file ++ "(int a, int b) \x7b",
          "    return a + b" ++ String.join ((shape.dependencies file).map callTerm) ++ ";", "\x7d"]
        ++ initializerDefinition module file).map String.toList ++ [[]] := by
  apply Text.lines_unlines
  by_cases entry : file = 0
  · simp [or_imp, forall_and, includeLine, callTerm, initializerDefinition, entry,
      Text.not_mem_numeral]
  · simp [or_imp, forall_and, includeLine, callTerm, initializerDefinition, entry,
      Text.not_mem_numeral]

/-- A source includes the headers of the dependencies and calls their functions, in the order of
the graph. -/
theorem items_source (module file : Nat) (shape : Shape) :
    items (source module file shape) =
      (shape.dependencies file).map (fun dependency => Item.includes (headerName dependency))
        ++ Item.defines (functionName file)
        :: (shape.dependencies file).map (fun dependency =>
          Item.calls (functionName dependency) "a, b")
        ++ if file = 0 then
          [Item.defines (initializerName module), Item.calls (functionName 0) "a, a + 1"]
        else [] := by
  have end_read : readLine [] = [] := rfl
  have brace : readLine "\x7d".toList = [] := rfl
  have includes : (shape.dependencies file).flatMap
        (fun dependency => [Item.includes (headerName dependency)]) =
      (shape.dependencies file).map fun dependency => Item.includes (headerName dependency) :=
    List.flatMap_pure_eq_map _ _
  rw [items, lines_source]
  simp only [List.flatMap_append, List.flatMap_map, List.flatMap_cons, List.flatMap_nil,
    readLine_includeLine, readLine_functionDefinition, readLine_return, brace, end_read,
    items_initializerDefinition, List.append_nil, List.cons_append, List.nil_append, includes]

/-- The main source includes every entry header and calls every initializer, in order. -/
theorem items_main (modules : Nat) :
    items (main modules) =
      (List.range modules).map (fun module => Item.includes (moduleDirectory module ++ "/0.h"))
        ++ Item.defines "main"
        :: (List.range modules).map fun module =>
          Item.calls (initializerName module) (toString module) := by
  have blank : readLine "".toList = [] := rfl
  have opening : readLine "int main() \x7b".toList = [Item.defines "main"] := rfl
  have last : readLine "    return 0;".toList = [] := rfl
  have brace : readLine "\x7d".toList = [] := rfl
  have includes : (List.range modules).flatMap
        (fun module => [Item.includes (moduleDirectory module ++ "/0.h")]) =
      (List.range modules).map fun module => Item.includes (moduleDirectory module ++ "/0.h") :=
    List.flatMap_pure_eq_map _ _
  have calls : (List.range modules).flatMap
        (fun module => [Item.calls (initializerName module) (toString module)]) =
      (List.range modules).map
        fun module => Item.calls (initializerName module) (toString module) :=
    List.flatMap_pure_eq_map _ _
  rw [main, items_unlines]
  · simp only [List.flatMap_append, List.flatMap_map, List.flatMap_cons, List.flatMap_nil,
      readLine_entryIncludeLine, readLine_initializerCall, blank, opening, last, brace,
      List.append_nil, List.cons_append, List.nil_append, List.append_assoc, includes, calls]
  · simp [or_imp, forall_and, entryIncludeLine, Text.not_mem_numeral]

end BenchTree.Source

import BenchTree.Proofs.Source.Closed
import BenchTree.Proofs.Text.Numeral

/-!
# The contents of a source

From the text of a source one can tell which files it includes, whose function it defines, whose
functions it calls, and which module it initializes, if any. The reader below takes numbers, not
names, and refuses a text that includes, defines or calls anything else. What it reads out of a
rendered source is the graph of dependencies, twice and in order, so two sources are the same text
only if they agree in all of this.
-/

namespace BenchTree.Source

namespace Item

/-- The file that an item includes. -/
def includedFile? : Item → Option String
  | .includes file => some file
  | _ => none

/-- The function that an item defines. -/
def definedName? : Item → Option String
  | .defines function => some function
  | _ => none

/-- The name of a called function and the arguments of the call. -/
def call? : Item → Option (String × String)
  | .calls function arguments => some (function, arguments)
  | _ => none

end Item

/-- What the text of a source contains, by numbers. -/
structure Contents where
  included : List Nat
  function : Nat
  called : List Nat
  initialized : Option Nat
  deriving DecidableEq, Repr

/-- The file whose function is called on both parameters. -/
def calledFile? (call : String × String) : Option Nat :=
  if call.2 = "a, b" then Text.numberBetween? "func" "" call.1 else none

/-- The module that is initialized by the functions behind the first one, if there is any. -/
def initializedBy? : List String → Option (Option Nat)
  | [] => some none
  | [function] => (Text.numberBetween? "initModule" "" function).map some
  | _ => none

/-- Reads what a source contains. Anything that no source contains is refused. -/
def contents? (text : String) : Option Contents :=
  match (items text).filterMap Item.definedName? with
  | [] => none
  | name :: others => do
      let included ← ((items text).filterMap Item.includedFile?).mapM
        (Text.numberBetween? "" ".h")
      let function ← Text.numberBetween? "func" "" name
      let called ← ((body name (items text)).filterMap Item.call?).mapM calledFile?
      let initialized ← initializedBy? others
      return { included, function, called, initialized }

/-- Numbers that are spelled one by one are read one by one. -/
theorem mapM_map_of_read {Spelling : Type} {spell : Nat → Spelling}
    {read? : Spelling → Option Nat} (reads : ∀ number, read? (spell number) = some number)
    (numbers : List Nat) : (numbers.map spell).mapM read? = some numbers := by
  induction numbers with
  | nil => rfl
  | cons first rest ih => simp [reads, ih]

theorem numberBetween?_headerName (file : Nat) :
    Text.numberBetween? "" ".h" (headerName file) = some file := by
  have ends : Text.EndsNumeral ".h".toList := Text.endsNumeral_cons (by decide) _
  exact (Text.numberBetween?_eq_some_iff ends).mpr (by simp)

theorem numberBetween?_functionName (file : Nat) :
    Text.numberBetween? "func" "" (functionName file) = some file := by
  have ends : Text.EndsNumeral "".toList := Text.endsNumeral_nil
  exact (Text.numberBetween?_eq_some_iff ends).mpr (by simp)

theorem numberBetween?_initializerName (module : Nat) :
    Text.numberBetween? "initModule" "" (initializerName module) = some module := by
  have ends : Text.EndsNumeral "".toList := Text.endsNumeral_nil
  exact (Text.numberBetween?_eq_some_iff ends).mpr (by simp)

theorem calledFile?_functionName (file : Nat) :
    calledFile? (functionName file, "a, b") = some file := by
  rw [calledFile?, if_pos rfl, numberBetween?_functionName]

theorem includedFiles_source (module file : Nat) (shape : Shape) :
    (items (source module file shape)).filterMap Item.includedFile? =
      (shape.dependencies file).map headerName := by
  rw [items_source]
  by_cases entry : file = 0
  · simp [entry, Item.includedFile?, List.filterMap_map, Function.comp_def, or_imp, forall_and]
  · simp [entry, Item.includedFile?, List.filterMap_map, Function.comp_def]

theorem definedNames_source (module file : Nat) (shape : Shape) :
    (items (source module file shape)).filterMap Item.definedName? =
      functionName file :: if file = 0 then [initializerName module] else [] := by
  rw [items_source]
  by_cases entry : file = 0
  · simp [entry, Item.definedName?, List.filterMap_map, Function.comp_def]
  · simp [entry, Item.definedName?, List.filterMap_map, Function.comp_def]

theorem calls_source (module file : Nat) (shape : Shape) :
    (body (functionName file) (items (source module file shape))).filterMap Item.call? =
      (shape.dependencies file).map fun dependency => (functionName dependency, "a, b") := by
  rw [body_function]
  simp [Item.call?, List.filterMap_map, Function.comp_def]

theorem initializedBy?_source (module file : Nat) :
    initializedBy? (if file = 0 then [initializerName module] else []) =
      some (if file = 0 then some module else none) := by
  by_cases entry : file = 0
  · rw [if_pos entry, if_pos entry, initializedBy?, numberBetween?_initializerName]
    rfl
  · rw [if_neg entry, if_neg entry]
    rfl

/-- Out of a source its dependencies are read twice, its file, and for the entry file the module. -/
theorem contents?_source (module file : Nat) (shape : Shape) :
    contents? (source module file shape) = some
      { included := shape.dependencies file
        function := file
        called := shape.dependencies file
        initialized := if file = 0 then some module else none } := by
  simp only [contents?, definedNames_source, includedFiles_source, calls_source,
    mapM_map_of_read numberBetween?_headerName, mapM_map_of_read calledFile?_functionName,
    numberBetween?_functionName, initializedBy?_source]
  rfl

/-- Besides its dependencies and its file, only an entry source depends on its module. -/
theorem source_congr {module other file : Nat} {shape otherShape : Shape}
    (same_dependencies : shape.dependencies file = otherShape.dependencies file)
    (same_module : file = 0 → module = other) :
    source module file shape = source other file otherShape := by
  have same_definition : initializerDefinition module file = initializerDefinition other file := by
    by_cases entry : file = 0
    · rw [same_module entry]
    · rw [initializerDefinition, initializerDefinition, if_neg entry, if_neg entry]
  rw [source, source, same_dependencies, same_definition]

theorem source_inj {module other file otherFile : Nat} {shape otherShape : Shape} :
    source module file shape = source other otherFile otherShape ↔
      file = otherFile ∧ shape.dependencies file = otherShape.dependencies otherFile ∧
        (file = 0 → module = other) := by
  constructor
  · intro same
    have read := congrArg contents? same
    simp only [contents?_source, Option.some_inj, Contents.mk.injEq] at read
    rcases read with ⟨same_dependencies, rfl, _, same_initialized⟩
    refine ⟨rfl, same_dependencies, ?_⟩
    intro entry
    simpa [entry] using same_initialized
  · rintro ⟨rfl, same_dependencies, same_module⟩
    exact source_congr same_dependencies same_module

theorem source?_eq_ok {module file : Nat} {shape : Shape} (hasFiles : 0 < shape.filesPerModule) :
    source? module file shape = .ok (source module file shape) := by
  rw [source?, if_neg hasFiles.ne']

/-- The text of a source, also of a file behind the last one of its module, tells exactly its file,
its dependencies and, for the entry file, its module. -/
theorem source_read_back {shape : Shape} (hasFiles : 0 < shape.filesPerModule)
    (module file : Nat) :
    ∃ text, source? module file shape = .ok text ∧
      contents? text = some
        { included := shape.dependencies file
          function := file
          called := shape.dependencies file
          initialized := if file = 0 then some module else none } ∧
      (∀ other otherFile otherShape otherText,
        source? other otherFile otherShape = .ok otherText →
        (text = otherText ↔ file = otherFile ∧
          shape.dependencies file = otherShape.dependencies otherFile ∧
          (file = 0 → module = other))) ∧
      (file ≠ 0 → ∀ other, source? other file shape = .ok text) := by
  refine ⟨_, source?_eq_ok hasFiles, contents?_source module file shape, ?_, ?_⟩
  · intro other otherFile otherShape otherText rendered
    rw [source?] at rendered
    split at rendered
    · cases rendered
    · rw [← Except.ok.inj rendered]
      exact source_inj
  · intro no_entry other
    rw [source?_eq_ok hasFiles, source_congr rfl (fun entry => absurd entry no_entry)]

/-- A file behind the last one of its module has dependencies too, and more of them than files. -/
theorem source_read_back_beyond_module :
    0 < (⟨3, 5, 2⟩ : Shape).filesPerModule ∧
      ∃ text, source? 12 7 ⟨3, 5, 2⟩ = .ok text ∧
        contents? text = some ⟨[1, 2, 0, 1, 2], 7, [1, 2, 0, 1, 2], none⟩ := by
  have hasFiles : 0 < (⟨3, 5, 2⟩ : Shape).filesPerModule := by decide
  rcases source_read_back hasFiles 12 7 with ⟨text, rendered, read, _⟩
  exact ⟨hasFiles, text, rendered, read⟩

end BenchTree.Source

import BenchTree.Proofs.Path.Names
import BenchTree.Proofs.Run.Discipline
import BenchTree.Proofs.Run.Exact
import BenchTree.Proofs.Source.Reader

/-!
# The generated sources are closed

What a source of a generated tree asks for is found in the tree. The files that it includes are
looked for beside it and are headers of the tree. Each function that it calls is declared in one of
them and defined by one source only, that of the file which the call is named after. This is read
off the texts of the files, so it connects the graph of dependencies, the numerals in the texts and
the places to which the texts are written.
-/

namespace BenchTree

namespace Path

/-- The file lies directly in the directory. -/
def LiesIn (path directory : Path) : Prop :=
  ∃ name, path.components = directory.components ++ [.name name]

/-- The last name of a path ends in an extension. -/
def EndsIn (path : Path) (extension : String) : Prop :=
  ∃ name, path.components.getLast? = some (.name name) ∧ extension.toList <:+ name.toList

/-- A file that is included by another one is looked for in the directory of the other one. -/
def Resolves (path : Path) (file : String) (included : Path) : Prop :=
  ∃ directory, path.LiesIn directory ∧ included.Same (directory.join file)

end Path

namespace Source

variable (files : List (Path × String))

/-- A header that is included by the file declares the function. -/
def Declared (path : Path) (text function : String) : Prop :=
  ∃ file header headerText, .includes file ∈ items text ∧ path.Resolves file header ∧
    (header, headerText) ∈ files ∧ .declares function ∈ items headerText

/-- The source at the place defines the function, and no other one of the given sources does. -/
def DefinedOnlyAt (place : Path) (given : Path → Prop) (function : String) : Prop :=
  ∃ source ∈ files, source.1.Same place ∧ given source.1 ∧
    ∀ other ∈ files, other.1.EndsIn ".c" → given other.1 →
      (.defines function ∈ items other.2 ↔ other = source)

/-- What the sources of a tree ask for is in the tree. -/
structure Closed (root : Path) (shape : Shape) : Prop where
  /-- What a source includes is a header of the tree. -/
  includes : ∀ path text file, (path, text) ∈ files → path.EndsIn ".c" →
    .includes file ∈ items text →
    ∃ header headerText, (header, headerText) ∈ files ∧ header.EndsIn ".h" ∧
      path.Resolves file header
  /-- The term of a file calls functions of the module, each declared and defined once. -/
  calls : ∀ module < shape.modules, ∀ file < shape.filesPerModule, ∃ path text,
    (path, text) ∈ files ∧ path.Same (Tree.sourcePath (Tree.modulePath root module) file) ∧
    (body (functionName file) (items text)).length = shape.fanout ∧
    (∀ item ∈ body (functionName file) (items text), ∃ function,
      item = .calls function "a, b") ∧
    ∀ function, .calls function "a, b" ∈ items text →
      ∃ dependency < shape.filesPerModule, function = functionName dependency ∧
        Declared files path text function ∧
        DefinedOnlyAt files (Tree.sourcePath (Tree.modulePath root module) dependency)
          (fun other => other.LiesIn (Tree.modulePath root module)) function
  /-- The initializer of a module calls the function defined before it in the same file. -/
  entry : ∀ module < shape.modules, ∃ path text,
    (path, text) ∈ files ∧ path.Same (Tree.sourcePath (Tree.modulePath root module) 0) ∧
    body (initializerName module) (items text) = [.calls (functionName 0) "a, a + 1"] ∧
    [.defines (functionName 0), .defines (initializerName module)].Sublist (items text)
  /-- The main source includes the declaration of each initializer, which is defined once. -/
  initializers : ∃ path text, (path, text) ∈ files ∧ path.Same (Tree.mainPath root) ∧
    ∀ module < shape.modules,
      .includes (moduleDirectory module ++ "/0.h") ∈ items text ∧
      (∃ header headerText, (header, headerText) ∈ files ∧
        header.Same (Tree.headerPath (Tree.modulePath root module) 0) ∧
        path.Resolves (moduleDirectory module ++ "/0.h") header ∧
        .declares (initializerName module) ∈ items headerText) ∧
      DefinedOnlyAt files (Tree.sourcePath (Tree.modulePath root module) 0) (fun _ => True)
        (initializerName module)

end Source

namespace Artifact

variable {root : Path} {shape : Shape} {backends : List Backend} {artifact : Artifact}

theorem endsIn_iff {extension : String} :
    (artifact.path root).EndsIn extension ↔
      ∃ name, artifact.names.getLast? = some name ∧ extension.toList <:+ name.toList := by
  cases artifact <;> simp [Path.EndsIn, components_path, names]

theorem endsIn_header (module file : Nat) : ((header module file).path root).EndsIn ".h" :=
  endsIn_iff.mpr ⟨Source.headerName file, rfl, by simp⟩

/-- The sources of a tree are the main source and those of the files. -/
theorem eq_main_or_eq_source (source : (artifact.path root).EndsIn ".c") :
    artifact = .main ∨ ∃ module file, artifact = .source module file := by
  rcases endsIn_iff.mp source with ⟨name, last, before, spelled⟩
  have letters : name.toList.getLast? = some 'c' := by simp [← spelled]
  -- No other kind of artifact has a name that ends in this letter.
  cases artifact with
  | main => exact .inl rfl
  | header module file =>
      rw [names, List.getLast?_cons_cons, List.getLast?_singleton, Option.some_inj] at last
      simp [← last] at letters
  | source module file => exact .inr ⟨module, file, rfl⟩
  | moduleDescription module backend =>
      rw [names, List.getLast?_cons_cons, List.getLast?_singleton, Option.some_inj] at last
      cases backend <;> simp [← last, Backend.fileName] at letters
  | rootDescription backend =>
      rw [names, List.getLast?_singleton, Option.some_inj] at last
      cases backend <;> simp [← last, Backend.fileName] at letters

/-- What the worker of a module writes lies in the directory of the module. -/
theorem liesIn_modulePath_iff {module : Nat} :
    (artifact.path root).LiesIn (Tree.modulePath root module) ↔
      artifact.author = .module module := by
  cases artifact <;>
    simp [Path.LiesIn, components_path, components_modulePath, names, author,
      Source.moduleDirectory_inj]

theorem source_resolves (root : Path) (module file dependency : Nat) :
    ((source module file).path root).Resolves (Source.headerName dependency)
      ((header module dependency).path root) :=
  ⟨Tree.modulePath root module, liesIn_modulePath_iff.mpr rfl, rfl⟩

theorem main_resolves (root : Path) (module : Nat) :
    (main.path root).Resolves (Source.moduleDirectory module ++ "/0.h")
      ((header module 0).path root) := by
  refine ⟨root, ⟨Source.mainName, Path.components_join root Source.isOrdinary_mainName⟩, ?_⟩
  have joined := Path.join_join root (Source.isOrdinary_moduleDirectory module) "0.h"
  rw [String.append_assoc] at joined
  exact congrArg Path.components joined

/-- Among the sources of a tree, those of one file of each module define its function. -/
theorem defines_function_iff (source : (artifact.path root).EndsIn ".c") {file : Nat} :
    .defines (Source.functionName file) ∈ Source.items (artifact.text shape) ↔
      ∃ module, artifact = .source module file := by
  rcases eq_main_or_eq_source source with rfl | ⟨module, other, rfl⟩
  · have other_name : Source.functionName file ≠ "main" := by
      rw [Ne, ← String.toList_inj]
      simp
    simp [text, Source.items_main, other_name]
  · rw [text, Source.items_source]
    by_cases entry : other = 0
    · simp [entry, Source.functionName_inj, Source.functionName_ne_initializerName, eq_comm]
    · simp [entry, Source.functionName_inj, eq_comm]

/-- Among the sources of a tree, one defines the initializer of a module. -/
theorem defines_initializer_iff (source : (artifact.path root).EndsIn ".c") {module : Nat} :
    .defines (Source.initializerName module) ∈ Source.items (artifact.text shape) ↔
      artifact = .source module 0 := by
  rcases eq_main_or_eq_source source with rfl | ⟨other, file, rfl⟩
  · have other_name : Source.initializerName module ≠ "main" := by
      rw [Ne, ← String.toList_inj]
      simp
    simp [text, Source.items_main, other_name]
  · rw [text, Source.items_source]
    by_cases entry : file = 0
    · simp [entry, Source.initializerName_inj, eq_comm,
        Source.functionName_ne_initializerName]
    · simp [entry, eq_comm, Source.functionName_ne_initializerName]

end Artifact

namespace Source

theorem body_append {function : String} {before : List Item} (calls rest : List Item)
    (elsewhere : .defines function ∉ before)
    (called : ∀ item ∈ calls, ∃ callee arguments, item = .calls callee arguments)
    (ends : ∀ callee arguments, rest.head? ≠ some (.calls callee arguments)) :
    body function (before ++ .defines function :: (calls ++ rest)) = calls := by
  have skipped : ∀ item ∈ before, decide (item ≠ .defines function) = true := by
    intro item item_mem
    rw [decide_eq_true_eq]
    rintro rfl
    exact elsewhere item_mem
  rw [body, List.dropWhile_append_of_pos skipped, List.dropWhile_cons_of_neg (by simp),
    List.tail_cons, List.takeWhile_append_of_pos]
  · cases rest with
    | nil => simp
    | cons first others =>
        cases first with
        | calls callee arguments => exact absurd rfl (ends callee arguments)
        | includes file => simp
        | declares name => simp
        | defines name => simp
  · intro item item_mem
    rcases called item item_mem with ⟨callee, arguments, rfl⟩
    rfl

theorem body_function (module file : Nat) (shape : Shape) :
    body (functionName file) (items (source module file shape)) =
      (shape.dependencies file).map fun dependency => .calls (functionName dependency) "a, b" := by
  rw [items_source, List.append_assoc, List.cons_append]
  apply body_append
  · simp
  · simp
  · by_cases entry : file = 0 <;> simp [entry]

theorem body_initializer (module : Nat) (shape : Shape) :
    body (initializerName module) (items (source module 0 shape)) =
      [.calls (functionName 0) "a, a + 1"] := by
  rw [items_source, if_pos rfl]
  apply body_append [_] []
  · simp [Ne.symm (functionName_ne_initializerName _ _)]
  · simp
  · simp

theorem includes_mem_source {module file : Nat} {shape : Shape} {included : String} :
    .includes included ∈ items (source module file shape) ↔
      ∃ dependency ∈ shape.dependencies file, included = headerName dependency := by
  rw [items_source]
  by_cases entry : file = 0 <;> simp [entry, eq_comm]

theorem includes_mem_main {modules : Nat} {included : String} :
    .includes included ∈ items (main modules) ↔
      ∃ module < modules, included = moduleDirectory module ++ "/0.h" := by
  simp [items_main, eq_comm]

theorem calls_mem_source {module file : Nat} {shape : Shape} {function : String} :
    .calls function "a, b" ∈ items (source module file shape) ↔
      ∃ dependency ∈ shape.dependencies file, function = functionName dependency := by
  rw [items_source]
  by_cases entry : file = 0 <;> simp [entry, eq_comm]

theorem declares_function_mem_header (module file : Nat) :
    .declares (functionName file) ∈ items (header module file) := by
  simp [items_header]

theorem declares_initializer_mem_header (module : Nat) :
    .declares (initializerName module) ∈ items (header module 0) := by
  simp [items_header]

/-- The files are those of a tree, each with its text. -/
def AreTree (files : List (Path × String)) (root : Path) (shape : Shape)
    (backends : List Backend) : Prop :=
  ∀ file, file ∈ files ↔ ∃ artifact : Artifact, artifact.Belongs shape backends ∧
    file = (artifact.path root, artifact.text shape)

namespace AreTree

variable {root : Path} {shape : Shape} {backends : List Backend} {files : List (Path × String)}
  (tree : AreTree files root shape backends)

include tree

theorem mem (artifact : Artifact) (belongs : artifact.Belongs shape backends) :
    (artifact.path root, artifact.text shape) ∈ files :=
  (tree _).mpr ⟨artifact, belongs, rfl⟩

theorem includes (hasFiles : 0 < shape.filesPerModule) {path : Path} {text file : String}
    (source_mem : (path, text) ∈ files) (source : path.EndsIn ".c")
    (included : .includes file ∈ items text) :
    ∃ header headerText, (header, headerText) ∈ files ∧ header.EndsIn ".h" ∧
      path.Resolves file header := by
  rcases (tree _).mp source_mem with ⟨artifact, belongs, same⟩
  rcases Prod.mk.inj same with ⟨rfl, rfl⟩
  rcases Artifact.eq_main_or_eq_source source with rfl | ⟨module, other, rfl⟩
  · rcases includes_mem_main.mp included with ⟨module, module_lt, rfl⟩
    exact ⟨_, _, tree.mem (.header module 0) ⟨module_lt, hasFiles⟩,
      Artifact.endsIn_header module 0, Artifact.main_resolves root module⟩
  · rcases includes_mem_source.mp included with ⟨dependency, dependency_mem, rfl⟩
    have dependency_lt := Shape.lt_of_mem_dependencies hasFiles dependency_mem
    exact ⟨_, _, tree.mem (.header module dependency) ⟨belongs.1, dependency_lt⟩,
      Artifact.endsIn_header module dependency, Artifact.source_resolves root module other _⟩

/-- Where one source of the tree defines a function, no other one among the given does. -/
theorem definedOnlyAt (artifact : Artifact) (belongs : artifact.Belongs shape backends)
    {given : Path → Prop} (artifact_given : given (artifact.path root)) {function : String}
    (defines_iff : ∀ other : Artifact, (other.path root).EndsIn ".c" → given (other.path root) →
      (.defines function ∈ items (other.text shape) ↔ other = artifact)) :
    DefinedOnlyAt files (artifact.path root) given function := by
  refine ⟨_, tree.mem artifact belongs, rfl, artifact_given, ?_⟩
  intro file file_mem source file_given
  rcases (tree _).mp file_mem with ⟨other, _, rfl⟩
  rw [defines_iff other source file_given]
  constructor
  · rintro rfl
    rfl
  · intro same
    exact Artifact.eq_of_same_path (congrArg Path.components (Prod.mk.inj same).1)

theorem function_definedOnlyAt {module file : Nat} (module_lt : module < shape.modules)
    (file_lt : file < shape.filesPerModule) :
    DefinedOnlyAt files (Tree.sourcePath (Tree.modulePath root module) file)
      (fun other => other.LiesIn (Tree.modulePath root module)) (functionName file) := by
  apply tree.definedOnlyAt (.source module file) ⟨module_lt, file_lt⟩
  · exact Artifact.liesIn_modulePath_iff.mpr rfl
  · intro other source beside
    rw [Artifact.defines_function_iff source]
    constructor
    · rintro ⟨otherModule, rfl⟩
      rw [Thread.module.inj (Artifact.liesIn_modulePath_iff.mp beside)]
    · rintro rfl
      exact ⟨module, rfl⟩

theorem initializer_definedOnlyAt {module : Nat} (module_lt : module < shape.modules)
    (hasFiles : 0 < shape.filesPerModule) :
    DefinedOnlyAt files (Tree.sourcePath (Tree.modulePath root module) 0) (fun _ => True)
      (initializerName module) := by
  apply tree.definedOnlyAt (.source module 0) ⟨module_lt, hasFiles⟩ trivial
  intro other source _
  exact Artifact.defines_initializer_iff source

theorem declared {module file dependency : Nat} (module_lt : module < shape.modules)
    (dependency_lt : dependency < shape.filesPerModule)
    (dependency_mem : dependency ∈ shape.dependencies file) :
    Declared files ((Artifact.source module file).path root) (source module file shape)
      (functionName dependency) :=
  ⟨headerName dependency, _, _, includes_mem_source.mpr ⟨dependency, dependency_mem, rfl⟩,
    Artifact.source_resolves root module file dependency,
    tree.mem (.header module dependency) ⟨module_lt, dependency_lt⟩,
    declares_function_mem_header module dependency⟩

theorem closed (hasFiles : 0 < shape.filesPerModule) : Closed files root shape := by
  constructor
  · intro path text file source_mem source included
    exact tree.includes hasFiles source_mem source included
  · intro module module_lt file file_lt
    refine ⟨_, _, tree.mem (.source module file) ⟨module_lt, file_lt⟩, rfl, ?_, ?_, ?_⟩
    · rw [Artifact.text, body_function, List.length_map, Shape.length_dependencies]
    · rw [Artifact.text, body_function]
      simp
    · intro function called
      rcases calls_mem_source.mp called with ⟨dependency, dependency_mem, rfl⟩
      have dependency_lt := Shape.lt_of_mem_dependencies hasFiles dependency_mem
      exact ⟨dependency, dependency_lt, rfl, tree.declared module_lt dependency_lt dependency_mem,
        tree.function_definedOnlyAt module_lt dependency_lt⟩
  · intro module module_lt
    refine ⟨_, _, tree.mem (.source module 0) ⟨module_lt, hasFiles⟩, rfl,
      body_initializer module shape, ?_⟩
    rw [Artifact.text, items_source, if_pos rfl, List.append_assoc, List.cons_append]
    apply List.Sublist.trans _ (List.sublist_append_right _ _)
    apply List.Sublist.cons_cons
    apply List.Sublist.trans _ (List.sublist_append_right _ _)
    simp
  · refine ⟨_, _, tree.mem .main trivial, rfl, ?_⟩
    intro module module_lt
    exact ⟨includes_mem_main.mpr ⟨module, module_lt, rfl⟩,
      ⟨_, _, tree.mem (.header module 0) ⟨module_lt, hasFiles⟩, rfl,
        Artifact.main_resolves root module, declares_initializer_mem_header module⟩,
      tree.initializer_definedOnlyAt module_lt hasFiles⟩

end AreTree

end Source

/-- On an empty store the calls of a tree leave the files of the tree and no others. -/
theorem Store.areTree_after {root : Path} {shape : Shape} {backends : List Backend}
    (distinct : backends.Nodup) {calls : List Call}
    (perm : calls.Perm (Tree.plan root shape backends).calls) :
    Source.AreTree (Store.empty.after calls).fileList root shape backends := by
  rintro ⟨path, text⟩
  rw [mem_fileList]
  constructor
  · intro found
    by_cases written : ∃ artifact : Artifact, artifact.Belongs shape backends ∧
        (artifact.path root).components = path.components
    · rcases written with ⟨artifact, belongs, same⟩
      rw [← same, files_after_artifact _ distinct perm belongs] at found
      exact ⟨artifact, belongs, (Option.some.inj found).symm⟩
    · push Not at written
      rw [files_after_elsewhere _ perm written] at found
      simp [empty] at found
  · rintro ⟨artifact, belongs, same⟩
    cases same
    exact files_after_artifact _ distinct perm belongs

/-- In whatever order the workers take their turns, generating into an empty store leaves sources
that are closed. -/
theorem generated_sources_closed (shape : Shape) (backends : List Backend) (parallel : Bool)
    (root : Path) (recording : Bool) (valid : shape.validate = .ok ()) :
    let generator := Generator.create shape backends parallel
    let own := generator.run Store.sink root recording .empty
    generator.MayEnd Store.sink root recording .empty own.1 own.2 ∧
    ∀ result final, generator.MayEnd Store.sink root recording .empty result final →
      (∃ manifest, result = .ok manifest) ∧ Source.Closed final.fileList root shape := by
  intro generator own
  refine ⟨generator.mayEnd_run Store.sink root recording .empty, ?_⟩
  intro result final mayEnd
  rcases mayEnd.exists_perm valid with ⟨calls, perm, rfl, succeeded⟩
  have tree := Store.areTree_after (Backend.nodup_distinct backends) perm
  exact ⟨⟨_, succeeded⟩, tree.closed ((Shape.validate_eq_ok_iff shape).mp valid).1⟩

theorem generated_sources_closed_repeated_dependencies :
    Shape.validate ⟨2, 5, 2⟩ = .ok () ∧
      Source.Closed ((Generator.create ⟨2, 5, 2⟩ [.cmake] true).run Store.sink ⟨"./out/"⟩ true
        .empty).2.fileList ⟨"./out/"⟩ ⟨2, 5, 2⟩ := by
  have valid : Shape.validate ⟨2, 5, 2⟩ = .ok () := rfl
  rcases generated_sources_closed ⟨2, 5, 2⟩ [.cmake] true ⟨"./out/"⟩ true valid with
    ⟨run_ends, ends⟩
  exact ⟨valid, (ends _ _ run_ends).2⟩

end BenchTree

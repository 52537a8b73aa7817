import BenchTree.Generator
import BenchTree.Proofs.Description.CMake
import BenchTree.Proofs.Description.Meique
import BenchTree.Proofs.Description.Sources
import BenchTree.Proofs.Store.Calls
import BenchTree.Proofs.Tree.Calls
import BenchTree.Recorder

/-!
# All descriptions tell of the generated tree

Descriptions of one module, or of the executable, say the same in every format, and what they say
is true of the tree that is generated with them. The sources of a library are those that are
written for its module. The directories with descriptions of their own, which are also searched for
headers, are those that are made for the modules, and the libraries that are linked are those that
the descriptions of the modules define.
-/

namespace BenchTree

theorem Plan.perform_recorder (plan : Plan) (recording : Bool) (notes : Notes)
    (calls : Array Call) :
    (plan.perform (Recorder.sink none) recording notes calls).result = .ok () ∧
      (plan.perform (Recorder.sink none) recording notes calls).state.toList =
        calls.toList ++ plan.calls := by
  induction plan generalizing notes calls with
  | done => simp
  | step first rest ih =>
      cases first with
      | note more => exact ih () _ calls
      | call request =>
          rcases ih () notes (calls.push request) with ⟨result, made⟩
          simp only [perform_call, Recorder.sink, reduceCtorEq, if_false]
          refine ⟨result, made.trans ?_⟩
          simp

/-- The source that a call writes. -/
def Call.source? : Call → Option Path
  | .createDirectory _ => none
  | .writeFile path _ => if ".c".toList.isSuffixOf path.text.toList then some path else none

namespace Description

theorem isName_libraryName (module : Nat) : Text.IsName (libraryName module) :=
  .of_numeral "module".toList module (by decide) (Source.toList_moduleDirectory module)

theorem isName_moduleDirectory (module : Nat) : Text.IsName (Source.moduleDirectory module) :=
  .of_numeral "module".toList module (by decide) (Source.toList_moduleDirectory module)

theorem isName_executableName : Text.IsName executableName :=
  .of_all "exe" (by decide) (by decide)

theorem build_module (backend : Backend) (module files : Nat) :
    build backend (Description.module backend module files) =
      ⟨[libraryName module], [], [], [], [], []⟩ := by
  have isName := isName_libraryName module
  cases backend with
  | cmake => rw [build, read, Description.module, CMake.read_module isName]; rfl
  | meique => rw [build, read, Description.module, Meique.read_module isName]; rfl

theorem build_root (backend : Backend) (modules : Nat) :
    build backend (root backend modules) =
      { libraries := []
        executables := [executableName]
        compiled := [(executableName, Source.mainName)]
        linked := (List.range modules).map fun module => (executableName, libraryName module)
        subdirectories := (List.range modules).map Source.moduleDirectory
        includeDirectories := (List.range modules).map Source.moduleDirectory } := by
  cases backend with
  | cmake =>
      rw [build, read, root]
      rw [CMake.read_root isName_executableName]
      · simp [Build.ofStatements]
      · simp [isName_moduleDirectory]
      · simp [isName_libraryName]
  | meique =>
      have pairs : ((List.range modules).map Source.moduleDirectory).zip
            ((List.range modules).map libraryName) =
          (List.range modules).map fun module =>
            (Source.moduleDirectory module, libraryName module) := List.zip_map' ..
      rw [build, read, root]
      simp only [pairs]
      rw [Meique.read_root isName_executableName]
      · simp [Build.ofStatements, List.filterMap_flatMap, List.flatMap_map, Function.comp_def,
          List.filterMap_map]
        exact ⟨List.flatMap_pure_eq_map _ _, List.flatMap_pure_eq_map _ _⟩
      · simp [isName_moduleDirectory, isName_libraryName]

theorem sources_module (backend : Backend) (module : Nat) {files : Nat}
    (fits : files ≤ Word.largest) :
    sources (Description.module backend module files) =
      (List.range files).map Source.sourceName := by
  have isName := isName_libraryName module
  cases backend with
  | cmake => exact sources_cmake isName fits
  | meique => exact sources_meique isName fits

/-- What the description of a module says, and that it is true. -/
structure TellsModule (backend : Backend) (module files : Nat) : Prop where
  sources : sources (Description.module backend module files) =
    (List.range files).map Source.sourceName
  distinct : (Description.sources (Description.module backend module files)).Nodup
  library : (build backend (Description.module backend module files)).libraries =
    [libraryName module]
  /-- The sources are those that are written, in the order in which they are written. -/
  written : ∀ (directory : Path) (fanout modules : Nat) (recording : Bool),
    (writeFiles (Recorder.sink none) directory module ⟨files, fanout, modules⟩ recording
      #[]).state.toList.filterMap Call.source? =
      (Description.sources (Description.module backend module files)).map directory.join

/-- What the description of the executable says, and that it is true. -/
structure TellsRoot (backend : Backend) (modules : Nat) : Prop where
  subdirectories : (build backend (root backend modules)).subdirectories =
    (List.range modules).map Source.moduleDirectory
  includeDirectories : (build backend (root backend modules)).includeDirectories =
    (List.range modules).map Source.moduleDirectory
  linked : (build backend (root backend modules)).linked =
    (List.range modules).map fun module => (executableName, Source.moduleDirectory module)
  distinct : ((List.range modules).map Source.moduleDirectory).Nodup
  executable : (build backend (root backend modules)).executables = [executableName]
  compiled : (build backend (root backend modules)).compiled =
    [(executableName, Source.mainName)]
  /-- The linked libraries are those that the descriptions of the modules define. -/
  defined : ∀ (definer : Backend) (files : Nat),
    (build backend (root backend modules)).linked.map Prod.snd =
      (List.range modules).flatMap fun module =>
        (build definer (Description.module definer module files)).libraries
  /-- Behind the root the directories that are made are those of the description. -/
  made : ∀ (files fanout : Nat) (backends : List Backend) (parallel : Bool) (place : Path)
    (recording : Bool), 0 < files →
    (((Generator.create ⟨files, fanout, modules⟩ backends parallel).run (Recorder.sink none) place
      recording #[]).2.toList.filterMap Call.directory?).tail =
      (build backend (root backend modules)).subdirectories.map place.join

theorem toList_join_suffix (directory : Path) (name : String) :
    ∃ before, (directory.join name).text.toList = before ++ name.toList := by
  unfold Path.join
  split
  · exact ⟨[], rfl⟩
  · split
    · exact ⟨directory.text.toList, String.toList_append⟩
    · exact ⟨(directory.text ++ "/").toList, String.toList_append⟩

theorem source?_header (directory : Path) (file : Nat) (text : String) :
    Call.source? (.writeFile (Tree.headerPath directory file) text) = none := by
  rcases toList_join_suffix directory (Source.headerName file) with ⟨before, spelled⟩
  rw [Call.source?, if_neg]
  rw [List.isSuffixOf_iff_suffix, Tree.headerPath, spelled]
  rintro ⟨front, same⟩
  have ends := congrArg List.getLast? same
  simp at ends

theorem source?_source (directory : Path) (file : Nat) (text : String) :
    Call.source? (.writeFile (Tree.sourcePath directory file) text) =
      some (Tree.sourcePath directory file) := by
  rcases toList_join_suffix directory (Source.sourceName file) with ⟨before, spelled⟩
  rw [Call.source?, if_pos]
  rw [List.isSuffixOf_iff_suffix, Tree.sourcePath, spelled, Source.toList_sourceName]
  exact ⟨before ++ Nat.toDigits 10 file, by simp⟩

theorem writeFiles_sources (directory : Path) (module : Nat) (shape : Shape) (recording : Bool) :
    (writeFiles (Recorder.sink none) directory module shape recording
      #[]).state.toList.filterMap Call.source? =
      (List.range shape.filesPerModule).map fun file =>
        directory.join (Source.sourceName file) := by
  have pair : ∀ file, (Tree.filePlan directory module shape file).calls.filterMap Call.source? =
      [directory.join (Source.sourceName file)] := by
    intro file
    simp [Tree.filePlan, Plan.note, source?_header, source?_source]
    rfl
  rw [writeFiles, (Plan.perform_recorder _ recording .empty #[]).2]
  simp only [Tree.filesPlan, Plan.calls_each, List.nil_append, List.filterMap_flatMap, pair,
    ← List.range_eq_range']
  exact List.flatMap_pure_eq_map _ _

theorem run_directories (generator : Generator) (valid : generator.shape.validate = .ok ())
    (place : Path) (recording : Bool) :
    (generator.run (Recorder.sink none) place recording #[]).2.toList.filterMap Call.directory? =
      Tree.directories place generator.shape.modules := by
  have written : ∀ artifacts : List Artifact,
      (artifacts.map (Artifact.call place generator.shape)).filterMap Call.directory? = [] := by
    intro artifacts
    simp [List.filterMap_map, Function.comp_def, Artifact.call, Call.directory?]
  rw [Generator.run_of_valid valid, (Plan.perform_recorder _ recording .empty #[]).2]
  simp only [List.nil_append, Generator.plan, Tree.calls_plan, Tree.calls_openingPlan,
    Tree.calls_modulePlan, Tree.calls_rootDescriptionsPlan, List.filterMap_append,
    List.filterMap_cons, List.filterMap_flatMap, written, Call.directory?, Artifact.call,
    List.append_nil, Tree.directories, List.cons_append, List.nil_append]
  exact congrArg _ (List.flatMap_pure_eq_map _ _)

/-- Descriptions of a module, or of the executable, say the same in every format, and what they say
is true of what is generated. -/
theorem descriptions_agree (module files modules : Nat) (fits : files ≤ Word.largest) :
    (∀ backend, TellsModule backend module files) ∧ ∀ backend, TellsRoot backend modules := by
  constructor
  · intro backend
    have read := sources_module backend module fits
    constructor
    · exact read
    · rw [read]
      exact List.nodup_range.map fun _ _ same => Source.sourceName_inj.mp same
    · rw [build_module]
    · intro directory fanout modules recording
      rw [read, writeFiles_sources, List.map_map]
      rfl
  · intro backend
    have described := build_root backend modules
    constructor
    · rw [described]
    · rw [described]
    · rw [described]
      rfl
    · exact List.nodup_range.map fun _ _ same => Source.moduleDirectory_inj.mp same
    · rw [described]
    · rw [described]
    · intro definer files
      simp only [described, build_module, List.map_map]
      exact (List.flatMap_pure_eq_map _ _).symm
    · intro files fanout backends parallel place recording hasFiles
      rw [described]
      -- Without modules nothing is generated, and the description lists no directory.
      by_cases noModules : modules = 0
      · subst noModules
        have refused : Shape.validate ⟨files, fanout, 0⟩ = .error .noModules := by
          simp [Shape.validate, hasFiles.ne']
        have nothing : (Generator.create ⟨files, fanout, 0⟩ backends parallel).run
            (Recorder.sink none) place recording #[] = (.error (.shape .noModules), #[]) :=
          Generator.run_of_invalid refused ..
        simp [nothing]
      · have valid : Shape.validate ⟨files, fanout, modules⟩ = .ok () := by
          rw [Shape.validate_eq_ok_iff]
          exact ⟨hasFiles, Nat.pos_of_ne_zero noModules⟩
        rw [run_directories _ valid, Tree.directories, List.tail_cons, List.map_map]
        rfl

theorem descriptions_agree_two_files :
    2 ≤ Word.largest ∧ (∀ backend, TellsModule backend 3 2) ∧ ∀ backend, TellsRoot backend 4 := by
  have fits : 2 ≤ Word.largest := by decide
  exact ⟨fits, descriptions_agree 3 2 4 fits⟩

end Description

end BenchTree

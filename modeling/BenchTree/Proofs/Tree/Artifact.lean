import BenchTree.Path.Lemmas
import BenchTree.Tree
import Mathlib

/-!
# The artifacts of a tree

An artifact is named by what it is, not by where it lies: the main source, the header or source of
a file, or the description of a module or of the whole tree for one backend. Its path follows from
the root. This file shows that different artifacts never share a place, whatever the numbers and
however the root is spelled, and that the plan of a tree writes each of its artifacts once.

Every name is ordinary, so a path below the root has the components of the root and behind them
its names. Decimal numerals are injective, and the kinds of names are told apart by their ends.
-/

namespace BenchTree

/-- A numeral between texts without slashes makes an ordinary name. -/
theorem Path.IsOrdinary.of_numeral {name : String} (number : Nat) (before after : List Char)
    (spelled : name.toList = before ++ Nat.toDigits 10 number ++ after)
    (noSlash : '/' ∉ before ++ after) : IsOrdinary name := by
  have digits : ∀ character ∈ Nat.toDigits 10 number, character.isDigit := fun _ digit_mem =>
    Nat.isDigit_of_mem_toDigits (by decide) (by decide) digit_mem
  have digit_mem : (Nat.toDigits 10 number).head Nat.toDigits_ne_nil ∈ name.toList := by
    simp [spelled]
  have digit_ne : (Nat.toDigits 10 number).head Nat.toDigits_ne_nil ≠ '.' := by
    intro dot
    have digit := digits _ (List.head_mem Nat.toDigits_ne_nil)
    rw [dot] at digit
    revert digit
    decide
  constructor
  · intro slash_mem
    have slash_digit : '/' ∈ Nat.toDigits 10 number := by
      simp only [spelled, List.mem_append] at slash_mem noSlash
      tauto
    have digit := digits _ slash_digit
    revert digit
    decide
  · rintro rfl
    simp at digit_mem
  · rintro rfl
    exact digit_ne (by simpa using digit_mem)
  · rintro rfl
    exact digit_ne (by simpa using digit_mem)

namespace Source

@[simp]
theorem toList_headerName (file : Nat) :
    (headerName file).toList = Nat.toDigits 10 file ++ ['.', 'h'] := by
  have spelled : headerName file = file.repr ++ ".h" := rfl
  simp [spelled]

@[simp]
theorem toList_sourceName (file : Nat) :
    (sourceName file).toList = Nat.toDigits 10 file ++ ['.', 'c'] := by
  have spelled : sourceName file = file.repr ++ ".c" := rfl
  simp [spelled]

@[simp]
theorem toList_moduleDirectory (module : Nat) :
    (moduleDirectory module).toList = "module".toList ++ Nat.toDigits 10 module := by
  have spelled : moduleDirectory module = "module" ++ module.repr := rfl
  simp [spelled]

theorem isOrdinary_headerName (file : Nat) : Path.IsOrdinary (headerName file) :=
  .of_numeral file [] ['.', 'h'] (by simp) (by decide)

theorem isOrdinary_sourceName (file : Nat) : Path.IsOrdinary (sourceName file) :=
  .of_numeral file [] ['.', 'c'] (by simp) (by decide)

theorem isOrdinary_moduleDirectory (module : Nat) :
    Path.IsOrdinary (moduleDirectory module) :=
  .of_numeral module "module".toList [] (by simp) (by decide)

theorem isOrdinary_mainName : Path.IsOrdinary mainName := by
  constructor <;> decide

theorem numeral_inj {left right : Nat} :
    Nat.toDigits 10 left = Nat.toDigits 10 right ↔ left = right := by
  constructor
  · intro same
    have values := congrArg (fun digits => Nat.ofDigitChars 10 digits 0) same
    simpa using values
  · rintro rfl
    rfl

theorem headerName_inj {left right : Nat} :
    headerName left = headerName right ↔ left = right := by
  rw [← String.toList_inj]
  simp [numeral_inj]

theorem sourceName_inj {left right : Nat} :
    sourceName left = sourceName right ↔ left = right := by
  rw [← String.toList_inj]
  simp [numeral_inj]

theorem moduleDirectory_inj {left right : Nat} :
    moduleDirectory left = moduleDirectory right ↔ left = right := by
  rw [← String.toList_inj]
  simp [numeral_inj]

theorem headerName_ne_sourceName (header source : Nat) :
    headerName header ≠ sourceName source := by
  intro same
  have ends := congrArg (fun name => name.toList.getLast?) same
  simp at ends

end Source

namespace Backend

theorem isOrdinary_fileName (backend : Backend) : Path.IsOrdinary backend.fileName := by
  cases backend <;> constructor <;> decide

theorem fileName_inj {left right : Backend} : left.fileName = right.fileName ↔ left = right := by
  cases left <;> cases right <;> decide

theorem fileName_ne_mainName (backend : Backend) : backend.fileName ≠ Source.mainName := by
  cases backend <;> decide

theorem fileName_ne_headerName (backend : Backend) (file : Nat) :
    backend.fileName ≠ Source.headerName file := by
  intro same
  have ends := congrArg (fun name => name.toList.getLast?) same
  cases backend <;> simp [fileName] at ends

theorem fileName_ne_sourceName (backend : Backend) (file : Nat) :
    backend.fileName ≠ Source.sourceName file := by
  intro same
  have ends := congrArg (fun name => name.toList.getLast?) same
  cases backend <;> simp [fileName] at ends

end Backend

/-- A file of a generated tree, by what it is. -/
inductive Artifact where
  | main
  | header (module file : Nat)
  | source (module file : Nat)
  | moduleDescription (module : Nat) (backend : Backend)
  | rootDescription (backend : Backend)
  deriving DecidableEq, Repr

namespace Artifact

/-- The names that lead from the root of a tree to an artifact. -/
def names : Artifact → List String
  | .main => [Source.mainName]
  | .header module file => [Source.moduleDirectory module, Source.headerName file]
  | .source module file => [Source.moduleDirectory module, Source.sourceName file]
  | .moduleDescription module backend => [Source.moduleDirectory module, backend.fileName]
  | .rootDescription backend => [backend.fileName]

/-- Where an artifact lies in the tree with the given root. -/
def path (root : Path) : Artifact → Path
  | .main => Tree.mainPath root
  | .header module file => Tree.headerPath (Tree.modulePath root module) file
  | .source module file => Tree.sourcePath (Tree.modulePath root module) file
  | .moduleDescription module backend => (Tree.modulePath root module).join backend.fileName
  | .rootDescription backend => root.join backend.fileName

/-- What is written into an artifact of a tree of the given shape. -/
def text (shape : Shape) : Artifact → String
  | .main => Source.main shape.modules
  | .header module file => Source.header module file
  | .source module file => Source.source module file shape
  | .moduleDescription module backend => Description.module backend module shape.filesPerModule
  | .rootDescription backend => Description.root backend shape.modules

/-- The call that writes an artifact. -/
def call (root : Path) (shape : Shape) (artifact : Artifact) : Call :=
  .writeFile (artifact.path root) (artifact.text shape)

/-- The artifacts of a tree of the given shape for the given backends. -/
def Belongs (shape : Shape) (backends : List Backend) : Artifact → Prop
  | .main => True
  | .header module file => module < shape.modules ∧ file < shape.filesPerModule
  | .source module file => module < shape.modules ∧ file < shape.filesPerModule
  | .moduleDescription module backend => module < shape.modules ∧ backend ∈ backends
  | .rootDescription backend => backend ∈ backends

/-- Repetitions among the backends do not count. -/
@[simp]
theorem belongs_distinct {shape : Shape} {backends : List Backend} {artifact : Artifact} :
    artifact.Belongs shape (Backend.distinct backends) ↔ artifact.Belongs shape backends := by
  cases artifact <;> simp [Belongs]

theorem components_modulePath (root : Path) (module : Nat) :
    (Tree.modulePath root module).components =
      root.components ++ [.name (Source.moduleDirectory module)] :=
  Path.components_join root (Source.isOrdinary_moduleDirectory module)

/-- An artifact lies below the root by its names, however the root is spelled. -/
theorem components_path (root : Path) (artifact : Artifact) :
    (artifact.path root).components =
      root.components ++ artifact.names.map Path.Component.name := by
  cases artifact with
  | main => exact Path.components_join root Source.isOrdinary_mainName
  | header module file =>
      simp [path, Tree.headerPath, Path.components_join _ (Source.isOrdinary_headerName file),
        components_modulePath, names]
  | source module file =>
      simp [path, Tree.sourcePath, Path.components_join _ (Source.isOrdinary_sourceName file),
        components_modulePath, names]
  | moduleDescription module backend =>
      simp [path, Path.components_join _ backend.isOrdinary_fileName, components_modulePath, names]
  | rootDescription backend => exact Path.components_join root backend.isOrdinary_fileName

theorem isOrdinary_of_mem_names {artifact : Artifact} {name : String}
    (name_mem : name ∈ artifact.names) : Path.IsOrdinary name := by
  cases artifact with
  | main =>
      rw [List.mem_singleton.mp name_mem]
      exact Source.isOrdinary_mainName
  | header module file =>
      rcases List.mem_pair.mp name_mem with rfl | rfl
      · exact Source.isOrdinary_moduleDirectory module
      · exact Source.isOrdinary_headerName file
  | source module file =>
      rcases List.mem_pair.mp name_mem with rfl | rfl
      · exact Source.isOrdinary_moduleDirectory module
      · exact Source.isOrdinary_sourceName file
  | moduleDescription module backend =>
      rcases List.mem_pair.mp name_mem with rfl | rfl
      · exact Source.isOrdinary_moduleDirectory module
      · exact backend.isOrdinary_fileName
  | rootDescription backend =>
      rw [List.mem_singleton.mp name_mem]
      exact backend.isOrdinary_fileName

theorem names_injective {left right : Artifact} (same : left.names = right.names) :
    left = right := by
  cases left <;> cases right <;>
    simp_all [names, Source.moduleDirectory_inj, Source.headerName_inj, Source.sourceName_inj,
      Source.headerName_ne_sourceName, (Source.headerName_ne_sourceName _ _).symm,
      Backend.fileName_inj, Backend.fileName_ne_mainName, (Backend.fileName_ne_mainName _).symm,
      Backend.fileName_ne_headerName, (Backend.fileName_ne_headerName _ _).symm,
      Backend.fileName_ne_sourceName, (Backend.fileName_ne_sourceName _ _).symm]

/-- Different artifacts never share a place. -/
theorem eq_of_same_path {root : Path} {left right : Artifact}
    (same : (left.path root).Same (right.path root)) : left = right := by
  apply names_injective
  rw [Path.Same, components_path, components_path, List.append_cancel_left_eq] at same
  exact List.map_injective_iff.mpr (fun _ _ => Path.Component.name.inj) same

end Artifact

end BenchTree

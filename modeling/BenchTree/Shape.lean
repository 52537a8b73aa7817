import BenchTree.Word

/-!
# The shape of a benchmark tree

Three numbers describe a tree: how many files a module has, on how many files each file depends,
and how many modules there are. The files that a file depends on follow it cyclically within its
module, so equal shapes give equal graphs and no randomness is needed.
-/

namespace BenchTree

/-- The three numbers that determine a tree. -/
structure Shape where
  filesPerModule : Nat
  fanout : Nat
  modules : Nat
  deriving DecidableEq, Repr

/-- Why a shape describes no tree. -/
inductive ShapeError where
  | noFiles
  | noModules
  deriving DecidableEq, Repr

/-- What is told about a shape that describes no tree. -/
def ShapeError.message : ShapeError → String
  | .noFiles => "files per module must be at least 1"
  | .noModules => "module count must be at least 1"

/-- The dependencies of a file are asked for in a module without files. -/
structure EmptyModule where
  deriving DecidableEq, Repr

/-- What the assertion tells that a module has files. -/
def EmptyModule.message (_violation : EmptyModule) : String :=
  "files_per_module must be non-zero"

namespace Shape

/-- The shape of a tree when nothing is asked for. -/
def default : Shape := ⟨10, 7, 5⟩

/-- A tree needs a file and a module; missing files are reported first. -/
def validate (shape : Shape) : Except ShapeError Unit :=
  if shape.filesPerModule = 0 then .error .noFiles
  else if shape.modules = 0 then .error .noModules
  else .ok ()

/-- The number of dependencies in the whole tree, at most the largest word. -/
def dependencyEdges (shape : Shape) : Nat :=
  Word.saturatingMul (Word.saturatingMul shape.filesPerModule shape.fanout) shape.modules

/--
The files that `file` depends on, in order: the `fanout` files of the module from `file` on,
going round. They repeat when there are more of them than files. Neither memory nor the words that
count files bound them here: on a machine a fanout may ask for more dependencies than a list can
hold, and the number of a file and an offset may add up to more than a word.
-/
def dependencies (shape : Shape) (file : Nat) : List Nat :=
  (List.range shape.fanout).map fun offset => (file + offset) % shape.filesPerModule

/-- A shape is accepted when it has a file and a module. -/
theorem validate_eq_ok_iff (shape : Shape) :
    shape.validate = .ok () ↔ 0 < shape.filesPerModule ∧ 0 < shape.modules := by
  unfold validate
  by_cases noFiles : shape.filesPerModule = 0
  · simp [noFiles]
  · by_cases noModules : shape.modules = 0
    · simp [noFiles, noModules]
    · simp [noFiles, noModules, Nat.pos_iff_ne_zero]

@[simp]
theorem length_dependencies (shape : Shape) (file : Nat) :
    (shape.dependencies file).length = shape.fanout := by
  simp [dependencies]

/-- Every dependency is a file of the module. -/
theorem lt_of_mem_dependencies {shape : Shape} (hasFiles : 0 < shape.filesPerModule)
    {file dependency : Nat} (member : dependency ∈ shape.dependencies file) :
    dependency < shape.filesPerModule := by
  obtain ⟨offset, _, rfl⟩ := List.mem_map.1 member
  exact Nat.mod_lt _ hasFiles

/-- The dependencies of a file, refused in a module without files. -/
def dependencies? (shape : Shape) (file : Nat) : Except EmptyModule (List Nat) :=
  if shape.filesPerModule = 0 then .error ⟨⟩ else .ok (shape.dependencies file)

end Shape

end BenchTree

import BenchTree.Description
import BenchTree.Plan

/-!
# The plan of a benchmark tree

The main source comes first. Then each module gets its directory, the header and the source of
every file, and one description per backend. The descriptions of the executable come last, so
where one of them is found the rest of the tree is complete.
-/

namespace BenchTree.Tree

/-- Writes a file that is no header or source of a module, and notes it. -/
def artifactPlan (path : Path) (text : Unit → String) : Plan :=
  .step (.call (.writeFile path (text ()))) fun _ => Plan.note ⟨#[path], 0⟩

/-- The path of the main source. -/
def mainPath (root : Path) : Path := root.join Source.mainName

/-- Writes the main source. -/
def mainPlan (root : Path) (modules : Nat) : Plan :=
  artifactPlan (mainPath root) fun _ => Source.main modules

/-- The path of the header of a file. -/
def headerPath (directory : Path) (file : Nat) : Path := directory.join (Source.headerName file)

/-- The path of the source of a file. -/
def sourcePath (directory : Path) (file : Nat) : Path := directory.join (Source.sourceName file)

/-- Writes the header of a file, then its source, and notes the pair when both are written. -/
def filePlan (directory : Path) (module : Nat) (shape : Shape) (file : Nat) : Plan :=
  .step (.call (.writeFile (headerPath directory file) (Source.header module file))) fun _ =>
  .step (.call (.writeFile (sourcePath directory file) (Source.source module file shape))) fun _ =>
  Plan.note ⟨#[headerPath directory file, sourcePath directory file], 2⟩

/-- Writes the headers and sources of a module. -/
def filesPlan (directory : Path) (module : Nat) (shape : Shape) : Plan :=
  Plan.each (filePlan directory module shape) 0 shape.filesPerModule

/-- The path of the directory of a module. -/
def modulePath (root : Path) (module : Nat) : Path := root.join (Source.moduleDirectory module)

/-- Makes a module's directory and writes what belongs into it. -/
def modulePlan (root : Path) (shape : Shape) (backends : List Backend) (module : Nat) : Plan :=
  .step (.call (.createDirectory (modulePath root module))) fun _ =>
  (filesPlan (modulePath root module) module shape).append fun _ =>
  Plan.forEach
    (fun backend =>
      artifactPlan ((modulePath root module).join backend.fileName) fun _ =>
        Description.module backend module shape.filesPerModule)
    backends

/-- Writes the descriptions of the executable, one per backend. -/
def rootDescriptionsPlan (root : Path) (modules : Nat) (backends : List Backend) : Plan :=
  Plan.forEach
    (fun backend =>
      artifactPlan (root.join backend.fileName) fun _ => Description.root backend modules)
    backends

/-- Makes the root and writes the whole tree. -/
def plan (root : Path) (shape : Shape) (backends : List Backend) : Plan :=
  .step (.call (.createDirectory root)) fun _ =>
  (mainPlan root shape.modules).append fun _ =>
  (Plan.each (modulePlan root shape backends) 0 shape.modules).append fun _ =>
  rootDescriptionsPlan root shape.modules backends

end BenchTree.Tree

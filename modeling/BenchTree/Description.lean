import BenchTree.Backend
import BenchTree.Description.CMake
import BenchTree.Description.Meique

/-!
# Build descriptions

Every backend describes the same build: one shared library per module and one executable that
links them all. A module's directory and its library have the same name.
-/

namespace BenchTree.Description

/-- The name of the library that is built from a module. -/
def libraryName (module : Nat) : String := s!"module{module}"

/-- The name of the executable. -/
def executableName : String := "exe"

/-- The description of the library of a module with the given number of files. -/
def module (backend : Backend) (module files : Nat) : String :=
  match backend with
  | .cmake => CMake.module (libraryName module) files
  | .meique => Meique.module (libraryName module) files

/-- The description of the executable that links the given number of modules. -/
def root (backend : Backend) (modules : Nat) : String :=
  let directories := (List.range modules).map Source.moduleDirectory
  let libraries := (List.range modules).map libraryName
  match backend with
  | .cmake => CMake.root executableName directories libraries
  | .meique => Meique.root executableName (directories.zip libraries)

end BenchTree.Description

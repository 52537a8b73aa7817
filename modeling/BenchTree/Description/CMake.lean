import BenchTree.Source

/-!
# CMake descriptions

The lists that CMake reads: one shared library per module, and one executable that links them all.
-/

namespace BenchTree.Description.CMake

/-- The description of a library of the given number of sources. -/
def module (name : String) (files : Nat) : String :=
  "add_library(" ++ name ++ " SHARED"
    ++ String.join ((List.range files).map fun file => " " ++ Source.sourceName file ++ "\n")
    ++ ")\n"

/-- The arguments that a list of words makes, each after a blank. -/
def arguments (words : List String) : String :=
  String.join (words.map (" " ++ ·))

/-- The description of an executable that links the libraries of some directories. -/
def root (executable : String) (directories libraries : List String) : String :=
  Source.unlines <|
    ["cmake_minimum_required(VERSION 2.8)"]
      ++ directories.map (fun directory => "add_subdirectory(" ++ directory ++ ")")
      ++ ["include_directories(" ++ arguments directories ++ ")",
        "add_executable(" ++ executable ++ " " ++ Source.mainName ++ ")",
        "target_link_libraries(" ++ executable ++ arguments libraries ++ ")"]

end BenchTree.Description.CMake

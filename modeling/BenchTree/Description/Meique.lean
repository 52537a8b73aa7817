import BenchTree.Source

/-!
# Meique descriptions

The Lua scripts that meique runs: one shared library per module, and one executable that uses them
all.
-/

namespace BenchTree.Description.Meique

/-- The description of a library of the given number of sources. -/
def module (name : String) (files : Nat) : String :=
  Source.unlines <|
    [name ++ " = Library:new(\"" ++ name ++ "\", SHARED)", name ++ ":addFiles([["]
      ++ (List.range files).map Source.sourceName
      ++ ["]])"]

/-- A text as a string of the script. -/
def quoted (text : String) : String := "\"" ++ text ++ "\""

/-- The lines that add a module's directory and use its library. -/
def useLines (executable directory library : String) : List String :=
  ["addSubdirectory(" ++ quoted directory ++ ")", executable ++ ":use(" ++ library ++ ")"]

/-- The description of an executable that uses libraries, each from its directory. -/
def root (executable : String) (modules : List (String × String)) : String :=
  Source.unlines <|
    [executable ++ " = Executable:new(" ++ quoted executable ++ ")",
      executable ++ ":addFile(" ++ quoted Source.mainName ++ ")"]
      ++ modules.flatMap (fun (directory, library) => useLines executable directory library)
      ++ [executable ++ ":addIncludeDirs("
        ++ ", ".intercalate (modules.map fun (directory, _) => quoted directory) ++ ")"]

end BenchTree.Description.Meique

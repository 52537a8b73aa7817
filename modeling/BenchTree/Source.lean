import BenchTree.Shape

/-!
# The generated C texts

Each file of a module is a header and a source. A source includes the headers of the files it
depends on and calls their functions, in the order of the graph. File 0 of a module also declares
and defines the module's initializer, which the main file calls.
-/

namespace BenchTree.Source

/-- The text of a list of lines, each ended by a line feed. -/
def unlines (lines : List String) : String :=
  String.join (lines.map (· ++ "\n"))

/-- The name of the directory that holds a module. -/
def moduleDirectory (module : Nat) : String := s!"module{module}"

/-- The name that guards a header against being included twice. -/
def includeGuard (module file : Nat) : String := s!"MODULE{module}_HEADER{file}_H"

/-- The name of the header of a file. -/
def headerName (file : Nat) : String := s!"{file}.h"

/-- The name of the source of a file. -/
def sourceName (file : Nat) : String := s!"{file}.c"

/-- The name of the main source. -/
def mainName : String := "main.c"

/-- The declaration of a module's initializer, which stands in the entry header only. -/
def initializerDeclaration (module file : Nat) : List String :=
  if file = 0 then
    ["__attribute__ ((visibility(\"default\"))) int initModule" ++ toString module ++ "(int);"]
  else []

/-- The text of a header: the entry header also declares the initializer of its module. -/
def header (module file : Nat) : String :=
  unlines <|
    ["#ifndef " ++ includeGuard module file, "#define " ++ includeGuard module file]
      ++ initializerDeclaration module file
      ++ ["int func" ++ toString file ++ "(int a, int b);", "#endif"]

/-- The line that includes the header of a file. -/
def includeLine (file : Nat) : String := "#include \"" ++ headerName file ++ "\""

/-- The term that calls the function of a file. -/
def callTerm (file : Nat) : String := " + func" ++ toString file ++ "(a, b)"

/-- The definition of a module's initializer, which stands in the entry source only. -/
def initializerDefinition (module file : Nat) : List String :=
  if file = 0 then
    ["int initModule" ++ toString module ++ "(int a) \x7b", "    return func0(a, a + 1);", "\x7d"]
  else []

/-- The text of a source: includes and calls of every dependency, in the order of the graph. -/
def source (module file : Nat) (shape : Shape) : String :=
  let dependencies := shape.dependencies file
  unlines <|
    dependencies.map includeLine
      ++ ["int func" ++ toString file ++ "(int a, int b) \x7b",
        "    return a + b" ++ String.join (dependencies.map callTerm) ++ ";", "\x7d"]
      ++ initializerDefinition module file

/-- The text of a source, refused in a module without files. -/
def source? (module file : Nat) (shape : Shape) : Except EmptyModule String :=
  if shape.filesPerModule = 0 then .error ⟨⟩ else .ok (source module file shape)

/-- The line that includes the entry header of a module. -/
def entryIncludeLine (module : Nat) : String :=
  "#include \"" ++ moduleDirectory module ++ "/0.h\""

/-- The line that calls the initializer of a module. -/
def initializerCallLine (module : Nat) : String :=
  "    initModule" ++ toString module ++ "(" ++ toString module ++ ");"

/-- The text of the main source: it includes every entry header and calls every initializer. -/
def main (modules : Nat) : String :=
  unlines <|
    (List.range modules).map entryIncludeLine
      ++ ["", "int main() \x7b"]
      ++ (List.range modules).map initializerCallLine
      ++ ["    return 0;", "\x7d"]

end BenchTree.Source

import BenchTree.Description
import BenchTree.Proofs.Text.Reading
import BenchTree.Proofs.Tree.Artifact

/-!
# Builds

What a description says about a build can be told without its format: which libraries and
executables there are, what an executable is compiled from and linked with, which directories have
descriptions of their own, and where headers are looked for. A reader for each format turns a
description into such statements. A CMake description is a list of commands with words as
arguments; a meique description is a Lua script, read line by line.
-/

namespace BenchTree.Description

/-- What a description says about a build. -/
inductive Statement where
  | library (name : String)
  | executable (name : String)
  | compiles (target source : String)
  | links (target library : String)
  | subdirectory (directory : String)
  | includeDirectory (directory : String)
  deriving DecidableEq, Repr

/-- A build, by what all statements of one kind say, in order. -/
structure Build where
  libraries : List String
  executables : List String
  compiled : List (String × String)
  linked : List (String × String)
  subdirectories : List String
  includeDirectories : List String
  deriving DecidableEq, Repr

/-- The build that some statements describe, told kind by kind. -/
def Build.ofStatements (statements : List Statement) : Build where
  libraries := statements.filterMap fun | .library name => some name | _ => none
  executables := statements.filterMap fun | .executable name => some name | _ => none
  compiled := statements.filterMap fun
    | .compiles target source => some (target, source)
    | _ => none
  linked := statements.filterMap fun | .links target library => some (target, library) | _ => none
  subdirectories := statements.filterMap fun | .subdirectory directory => some directory | _ => none
  includeDirectories := statements.filterMap fun
    | .includeDirectory directory => some directory
    | _ => none

namespace CMake

/-- What a command says. -/
def interpret (command : Text.Application) : List Statement :=
  match command.name, Text.words command.arguments with
  | "add_library", name :: _ => [.library name]
  | "add_executable", name :: sources => .executable name :: sources.map (.compiles name)
  | "target_link_libraries", target :: libraries => libraries.map (.links target)
  | "add_subdirectory", directories => directories.map .subdirectory
  | "include_directories", directories => directories.map .includeDirectory
  | _, _ => []

/-- What a CMake description says, command by command. -/
def read (text : String) : List Statement :=
  (Text.applications Text.isNameLetter text.toList).flatMap interpret

end CMake

namespace Meique

/-- A letter of what a script calls: of a name, or the colon in front of a method. -/
def isCallLetter (character : Char) : Bool := Text.isNameLetter character || character = ':'

/-- What the value of some variables says: an object has the name of its variable. -/
def interpretAssigned (assigned : List String) (call : Text.Application) : List Statement :=
  let names := Text.quotations call.arguments.toList
  if names = assigned then
    match call.name with
    | "Library:new" => names.map .library
    | "Executable:new" => names.map .executable
    | _ => []
  else []

/-- What the call of a method of a target says. -/
def interpretMethod (target : String) (method arguments : String) : List Statement :=
  match method with
  | "addFile" => (Text.quotations arguments.toList).map (.compiles target)
  | "use" => (Text.words arguments).map (.links target)
  | "addIncludeDirs" => (Text.quotations arguments.toList).map .includeDirectory
  | _ => []

/-- What a call says. A method of an object is called by the names of both, with a colon. -/
def interpret (call : Text.Application) : List Statement :=
  match (Text.pieces (· == ':') (fun _ => true) call.name.toList).map String.ofList with
  | [function] =>
      if function = "addSubdirectory" then
        (Text.quotations call.arguments.toList).map .subdirectory
      else []
  | [target, method] => interpretMethod target method call.arguments
  | _ => []

/-- What a line of a script says: an assignment, or calls. -/
def readLine (line : List Char) : List Statement :=
  match Text.pieces (· == '=') (fun _ => true) line with
  | [assigned, value] =>
      (Text.applications isCallLetter value).flatMap
        (interpretAssigned (Text.words (String.ofList assigned)))
  | _ => (Text.applications isCallLetter line).flatMap interpret

/-- What a meique description says, line by line. -/
def read (text : String) : List Statement := (Text.lines text.toList).flatMap readLine

end Meique

/-- What a description says, read in the format of its backend. -/
def read : Backend → String → List Statement
  | .cmake => CMake.read
  | .meique => Meique.read

/-- The build that a description describes. -/
def build (backend : Backend) (text : String) : Build := .ofStatements (read backend text)

end BenchTree.Description

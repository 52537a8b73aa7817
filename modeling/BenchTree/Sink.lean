import BenchTree.Path

/-!
# Sinks

A sink stores what is generated. It takes one call at a time and either carries it out or fails;
what it has become is known in both cases, so a failed run leaves its traces.
-/

namespace BenchTree

/-- Why storage refuses a call. -/
inductive IoError where
  | notFound
  | alreadyExists
  | notADirectory
  | isADirectory
  | nameTooLong
  | nulInPath
  | invalidText
  | diskFull
  /-- Any other refusal of an operating system, by its number and description. -/
  | system (number : Nat) (description : String)
  deriving DecidableEq, Repr

/-- What the system tells about a call that fails. -/
def IoError.message : IoError → String
  | .notFound => "No such file or directory (os error 2)"
  | .alreadyExists => "File exists (os error 17)"
  | .notADirectory => "Not a directory (os error 20)"
  | .isADirectory => "Is a directory (os error 21)"
  | .nameTooLong => "File name too long (os error 36)"
  | .nulInPath => "file name contained an unexpected NUL byte"
  | .invalidText => "stream did not contain valid UTF-8"
  | .diskFull => "disk full"
  | .system number description => description ++ " (os error " ++ toString number ++ ")"

/-- A request to a sink. -/
inductive Call where
  /-- Make a directory and its missing parents; an existing directory is kept. -/
  | createDirectory (directory : Path)
  /-- Write a file, replacing one that is there. -/
  | writeFile (path : Path) (text : String)
  deriving DecidableEq, Repr

/-- How a store of the given kind of state answers calls. -/
structure Sink (State : Type) where
  perform : Call → State → Except IoError Unit × State

end BenchTree

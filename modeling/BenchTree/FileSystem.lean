import BenchTree.Sink

/-!
# File systems

A file system makes single directories, tells which paths lead to directories, and writes and reads
whole files. All else that is asked of it is put together from these actions, here and in the
modules on top of this one. The monad of the actions is left open: on a disk that is told
beforehand they change its state, on a machine they take effect.
-/

namespace BenchTree

/-- The actions of a file system. -/
structure FileSystem (m : Type → Type) where
  /-- Makes one directory in a directory that is there. -/
  makeDirectory : Path → m (Except IoError Unit)
  /-- Tells whether a path leads to a directory. -/
  isDirectory : Path → m Bool
  /-- Writes a file in a directory that is there, replacing the content of a file that is there. -/
  writeFile : Path → ByteArray → m (Except IoError Unit)
  /-- Reads the content of a file. -/
  readFile : Path → m (Except IoError ByteArray)

namespace FileSystem

/-- A directory that could not be made may be there already. -/
def acceptExisting (problem : IoError) (isDirectory : Bool) : Except IoError Unit :=
  if problem = .alreadyExists ∧ isDirectory then .ok () else .error problem

/-- The text of a file that was read. -/
def decode (content : Except IoError ByteArray) : Except IoError String := do
  match String.fromUTF8? (← content) with
  | some text => .ok text
  | none => .error .invalidText

variable {m : Type → Type} [Monad m] (system : FileSystem m)

/--
Makes the first of the given directories, each of which lies in the next one. Where the directory
above is missing it is made first; what was made stays when a later one fails.
-/
@[specialize]
def makeFirst : List Path → m (Except IoError Unit)
  | [] => return .ok ()
  | path :: above => do
      match ← system.makeDirectory path with
      | .ok () => return .ok ()
      | .error .notFound =>
          match ← makeFirst above with
          | .error problem => return .error problem
          | .ok () =>
              match ← system.makeDirectory path with
              | .ok () => return .ok ()
              | .error problem => return acceptExisting problem (← system.isDirectory path)
      | .error problem => return acceptExisting problem (← system.isDirectory path)

/-- Carries out a call. A directory is made with its missing parents; the empty path and the root
need no making. -/
@[specialize]
def perform : Call → m (Except IoError Unit)
  | .createDirectory directory => system.makeFirst directory.ancestors
  | .writeFile path text => system.writeFile path text.toUTF8

/-- Reads a file that holds a text. -/
@[specialize]
def readText (path : Path) : m (Except IoError String) := do
  return decode (← system.readFile path)

end FileSystem

end BenchTree

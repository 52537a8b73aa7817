import BenchTree.Program

/-!
# The command

This file supplies the file system of the machine. What is asked of it, in which order, and what is
told about it is settled by the program, which runs in the same way on a disk.
-/

namespace BenchTree

/-- The refusal behind an error number of the operating system, which some calls give as a negative
number of 32 bits. A description starts with a capital letter. -/
def IoError.ofNumber (number : UInt32) (description : String) : IoError :=
  match if number < 0x80000000 then number.toNat else (0 - number).toNat with
  | 2 => .notFound
  | 17 => .alreadyExists
  | 20 => .notADirectory
  | 21 => .isADirectory
  | 36 => .nameTooLong
  | other => .system other description.capitalize

/-- The refusal that an error of the operating system stands for. -/
def IoError.ofSystem : IO.Error → IoError
  | .noFileOrDirectory .. => .notFound
  | .alreadyExists .. => .alreadyExists
  | .permissionDenied _ number description
  | .inappropriateType _ number description
  | .invalidArgument _ number description
  | .resourceExhausted _ number description => .ofNumber number description
  | .resourceBusy number description
  | .hardwareFault number description
  | .unsatisfiedConstraints number description
  | .otherError number description => .ofNumber number description
  | problem => .system 0 (toString problem)

namespace Machine

/-- The result of an action, with its error as a refusal. -/
def attempt (action : IO Result) : BaseIO (Except IoError Result) :=
  return (← action.toBaseIO).mapError IoError.ofSystem

/-- The file system of the machine. -/
def system : FileSystem BaseIO where
  makeDirectory path := attempt (IO.FS.createDir path.text)
  isDirectory path := (System.mkFilePath [path.text]).isDir
  writeFile path content := attempt (IO.FS.writeBinFile path.text content)
  readFile path := attempt (IO.FS.readBinFile path.text)

/-- Runs the program with the given arguments; the result is its exit code. -/
def run (arguments : List String) : IO UInt32 := do
  let report ← system.run .pauses arguments
  IO.print report.output
  IO.eprint report.errorText
  return report.exitCode

end Machine

end BenchTree

/-- Runs the program on the file system of the machine. -/
def main (arguments : List String) : IO UInt32 := BenchTree.Machine.run arguments

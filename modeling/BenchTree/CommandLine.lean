import BenchTree.Backend
import BenchTree.Text.Plain
import BenchTree.Word

/-!
# Command lines

What a command line asks for, and why one is refused. A refusal has one line of text; help and
version texts interrupt the reading in the same way.
-/

namespace BenchTree

/-- What a command line asks for. -/
structure CommandLine where
  files : Option Nat
  deps : Option Nat
  modules : Option Nat
  out : String
  config : Option String
  backends : List Backend
  jobs : Bool
  manifest : Option String
  quiet : Bool
  deriving DecidableEq, Repr

namespace CommandLine

/-- The numbers that are given by their place. -/
inductive Position where
  | files
  | deps
  | modules
  deriving DecidableEq, Repr

/-- The options that take a value. -/
inductive ValueOption where
  | out
  | config
  | backend
  | manifest
  deriving DecidableEq, Repr

/-- The options that take no value. -/
inductive Switch where
  | jobs
  | quiet
  | help
  | version
  deriving DecidableEq, Repr

/-- A value given by its place, as messages name it. -/
def Position.shown : Position → String
  | .files => "[FILES]"
  | .deps => "[DEPS]"
  | .modules => "[MODULES]"

/-- An option with a value, as messages name it. -/
def ValueOption.shown : ValueOption → String
  | .out => "--out <OUT>"
  | .config => "--config <CONFIG>"
  | .backend => "--backend <BACKENDS>"
  | .manifest => "--manifest <MANIFEST>"

/-- A switch, as messages name it. -/
def Switch.shown : Switch → String
  | .jobs => "--jobs"
  | .quiet => "--quiet"
  | .help => "--help"
  | .version => "--version"

/-- Why a command line is refused. -/
inductive UsageError where
  | unknownArgument (argument : String)
  | missingValue (option : ValueOption)
  | invalidBackend (value : String)
  | invalidNumber (position : Position) (value : String) (reason : Word.ReadError)
  | repeatedOption (option : ValueOption)
  | repeatedSwitch (switch : Switch)
  | unexpectedValue (switch : Switch) (value : String)
  deriving DecidableEq, Repr

namespace UsageError

/-- A text between the quotes that messages put around arguments. -/
def quoted (text : String) : String := "'" ++ text ++ "'"

/-- The wording of a refusal, where arguments are quoted without the control sequences in them. -/
def wording (effect : Text.BlankEffect) (problem : UsageError) : String :=
  let quotedPlain (argument : String) : String := quoted (Text.plain effect argument)
  match problem with
  | .unknownArgument argument => "error: unexpected argument " ++ quotedPlain argument ++ " found"
  | .missingValue option =>
      "error: a value is required for " ++ quoted option.shown ++ " but none was supplied"
  | .invalidBackend value =>
      "error: invalid value " ++ quotedPlain value ++ " for " ++ quoted ValueOption.backend.shown
  | .invalidNumber position value reason =>
      "error: invalid value " ++ quotedPlain value ++ " for " ++ quoted position.shown ++ ": "
        ++ reason.message
  | .repeatedOption option =>
      "error: the argument " ++ quoted option.shown ++ " cannot be used multiple times"
  | .repeatedSwitch switch =>
      "error: the argument " ++ quoted switch.shown ++ " cannot be used multiple times"
  | .unexpectedValue switch value =>
      "error: unexpected value " ++ quotedPlain value ++ " for " ++ quoted switch.shown
        ++ " found; no more were expected"

/-- The wording of a refusal as a text of its own. -/
def message (problem : UsageError) : String := problem.wording .ends

end UsageError

/-- Why the reading of a command line ends early. -/
inductive Interruption where
  | usage (error : UsageError)
  | help (isLong : Bool)
  | version
  deriving DecidableEq, Repr

end CommandLine

end BenchTree

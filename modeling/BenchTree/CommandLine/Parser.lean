import BenchTree.CommandLine

/-!
# Reading command lines

Arguments are taken from left to right. A value, of an option or given by its place, is *pending*
until the next place, known option or the end of the line; only then it is checked. So an unknown
argument right behind a bad value is what gets reported. After two dashes every argument is a
value given by its place.
-/

namespace BenchTree.CommandLine

/-- A value that is not checked yet. -/
inductive Pending where
  | nothing
  | option (option : ValueOption) (value : Option String)
  | position (position : Position) (text : String)
  deriving DecidableEq, Repr

/-- What is read of a command line so far. -/
structure Progress where
  files : Option Nat
  deps : Option Nat
  modules : Option Nat
  out : Option String
  config : Option String
  backends : List Backend
  jobs : Bool
  manifest : Option String
  quiet : Bool
  pending : Pending
  /-- The values given by their place that are still to come. -/
  places : List Position
  /-- Two dashes were met. -/
  onlyPlaces : Bool
  deriving DecidableEq, Repr

namespace Progress

/-- What is read before the first argument. -/
def start : Progress where
  files := none
  deps := none
  modules := none
  out := none
  config := none
  backends := []
  jobs := false
  manifest := none
  quiet := false
  pending := .nothing
  places := [.files, .deps, .modules]
  onlyPlaces := false

/-- Takes a value given by its place, which has to be a word. -/
def setPosition (progress : Progress) (position : Position) (text : String) :
    Except Interruption Progress :=
  match Word.read text with
  | .error reason => .error (.usage (.invalidNumber position text reason))
  | .ok value =>
      match position with
      | .files => .ok { progress with files := some value }
      | .deps => .ok { progress with deps := some value }
      | .modules => .ok { progress with modules := some value }

/-- Takes the value of an option; all but the backend may be given once only. -/
def setOption (progress : Progress) (option : ValueOption) (value : String) :
    Except Interruption Progress :=
  let repeated : Except Interruption Progress := .error (.usage (.repeatedOption option))
  match option with
  | .out =>
      if progress.out.isSome then repeated else .ok { progress with out := some value }
  | .config =>
      if progress.config.isSome then repeated else .ok { progress with config := some value }
  | .manifest =>
      if progress.manifest.isSome then repeated else .ok { progress with manifest := some value }
  | .backend =>
      match Backend.ofName? value with
      | some backend => .ok { progress with backends := progress.backends ++ [backend] }
      | none =>
          if value = "" then .error (.usage (.missingValue .backend))
          else .error (.usage (.invalidBackend value))

/-- Checks the value that is pending, if there is one, and takes it. -/
def settle (progress : Progress) : Except Interruption Progress :=
  let settled := { progress with pending := .nothing }
  match progress.pending with
  | .nothing => .ok settled
  | .option option none => .error (.usage (.missingValue option))
  | .option option (some value) => settled.setOption option value
  | .position position text => settled.setPosition position text

/-- Takes a switch; `isLong` tells how it was spelled. -/
def flip (progress : Progress) (switch : Switch) (isLong : Bool) :
    Except Interruption Progress := do
  let progress ← progress.settle
  match switch with
  | .jobs =>
      if progress.jobs then .error (.usage (.repeatedSwitch .jobs))
      else .ok { progress with jobs := true }
  | .quiet =>
      if progress.quiet then .error (.usage (.repeatedSwitch .quiet))
      else .ok { progress with quiet := true }
  | .help => .error (.help isLong)
  | .version => .error .version

/-- Takes an option with the value that is attached to it, or waits for the value. -/
def takeOption (progress : Progress) (option : ValueOption) (attached : Option String) :
    Except Interruption Progress := do
  let progress ← progress.settle
  match attached with
  | some value => progress.setOption option value
  | none => .ok { progress with pending := .option option none }

/-- Takes the next value that is given by its place; it is pending then. -/
def takePlace (progress : Progress) (argument : String) : Except Interruption Progress :=
  match progress.places with
  | [] => .error (.usage (.unknownArgument argument))
  | position :: places => do
      let progress ← progress.settle
      .ok { progress with pending := .position position argument, places := places }

end Progress

/-- The option that is spelled by a name. -/
def longOption? (name : String) : Option ValueOption :=
  match name with
  | "out" => some .out
  | "config" => some .config
  | "backend" => some .backend
  | "manifest" => some .manifest
  | _ => none

/-- The switch that is spelled by a name. -/
def longSwitch? (name : String) : Option Switch :=
  match name with
  | "jobs" => some .jobs
  | "quiet" => some .quiet
  | "help" => some .help
  | "version" => some .version
  | _ => none

/-- The switch that is spelled by a letter. -/
def shortSwitch? (letter : Char) : Option Switch :=
  match letter with
  | 'q' => some .quiet
  | 'h' => some .help
  | 'V' => some .version
  | _ => none

/-- The name of a long argument, and the value behind its first equals sign. -/
def splitAttached (text : List Char) : String × Option String :=
  let name := String.ofList (text.takeWhile (· ≠ '='))
  match text.dropWhile (· ≠ '=') with
  | [] => (name, none)
  | _ :: value => (name, some (String.ofList value))

namespace Progress

/-- Takes an argument that starts with two dashes, which are left out here. -/
def takeLong (progress : Progress) (text : List Char) : Except Interruption Progress :=
  let (name, attached) := splitAttached text
  match longOption? name, longSwitch? name with
  | some option, _ => progress.takeOption option attached
  | none, some switch =>
      match attached with
      | some value => .error (.usage (.unexpectedValue switch value))
      | none => progress.flip switch true
  | none, none => .error (.usage (.unknownArgument ("--" ++ name)))

/-- The value attached to a letter: one equals sign in front is dropped, nothing is no value. -/
def attachedToLetter : List Char → Option String
  | [] => none
  | '=' :: value => some (String.ofList value)
  | value => some (String.ofList value)

/-- Takes letters behind one dash, up to an option, to which the rest is attached. -/
def takeLetters (progress : Progress) : List Char → Except Interruption Progress
  | [] => .ok progress
  | 'o' :: rest => progress.takeOption .out (attachedToLetter rest)
  | letter :: rest =>
      match shortSwitch? letter with
      | some switch => do (← progress.flip switch false).takeLetters rest
      | none => .error (.usage (.unknownArgument ("-" ++ String.singleton letter)))

/-- Takes an argument that starts with no dash, or is a single one. -/
def takeValue (progress : Progress) (argument : String) : Except Interruption Progress :=
  match progress.pending with
  | .option option none => .ok { progress with pending := .option option (some argument) }
  | _ => progress.takePlace argument

/-- Takes one argument. -/
def take (progress : Progress) (argument : String) : Except Interruption Progress :=
  if progress.onlyPlaces then progress.takePlace argument
  else match argument.toList with
    | ['-'] => progress.takeValue argument
    | ['-', '-'] => .ok { progress with onlyPlaces := true }
    | '-' :: '-' :: text => progress.takeLong text
    | '-' :: letters => progress.takeLetters letters
    | _ => progress.takeValue argument

/-- What a command line asks for when it ends here. -/
def finish (progress : Progress) : Except Interruption CommandLine := do
  let progress ← progress.settle
  .ok
    { files := progress.files
      deps := progress.deps
      modules := progress.modules
      out := progress.out.getD "."
      config := progress.config
      backends := progress.backends
      jobs := progress.jobs
      manifest := progress.manifest
      quiet := progress.quiet }

end Progress

/-- Reads the arguments of a run. -/
def parse (arguments : List String) : Except Interruption CommandLine := do
  (← arguments.foldlM Progress.take Progress.start).finish

end BenchTree.CommandLine

import BenchTree.CommandLine.Parser
import BenchTree.Proofs.Word.Reading

/-!
# The grammar of command lines

A command line is a sequence of settings: numbers given by their place, options with a value, and
two switches. Each setting can be spelled in several ways, and options may stand anywhere before two
dashes. What the settings amount to does not depend on where the options stand: the numbers fill
the places in order, backends are kept in order, and everything else is given once at most.
-/

namespace BenchTree.CommandLine

/-- What one part of a command line settles. -/
inductive Setting where
  | number (value : Nat)
  | given (option : ValueOption) (value : String)
  | jobs
  | quiet
  deriving DecidableEq, Repr

namespace Setting

/-- The number that a setting gives, if it gives one. -/
def number? : Setting → Option Nat
  | .number value => some value
  | _ => none

/-- The value that is given to an option. -/
def valueOf? (wanted : ValueOption) : Setting → Option String
  | .given option value => if option = wanted then some value else none
  | _ => none

end Setting

/-- The long name of an option. -/
def ValueOption.name : ValueOption → String
  | .out => "out"
  | .config => "config"
  | .backend => "backend"
  | .manifest => "manifest"

/-- An argument that may follow an option as its value: a single dash, or no dash in front. -/
def IsFree (argument : String) : Prop := argument = "-" ∨ argument.toList.head? ≠ some '-'

/-- Whether an argument is free is found out by its first character. -/
instance (argument : String) : Decidable (IsFree argument) :=
  inferInstanceAs (Decidable (argument = "-" ∨ argument.toList.head? ≠ some '-'))

/-- Arguments that spell settings. -/
inductive Spells : List Setting → List String → Prop where
  | nothing : Spells [] []
  /-- Behind two dashes there are only numbers. -/
  | dashes {numbers : List Nat} {texts : List String}
      (numerals : List.Forall₂ Word.IsNumeral texts numbers) :
      Spells (numbers.map .number) ("--" :: texts)
  | number {text : String} {value : Nat} {settings : List Setting} {arguments : List String}
      (numeral : Word.IsNumeral text value) (rest : Spells settings arguments) :
      Spells (.number value :: settings) (text :: arguments)
  /-- A value may be an argument of its own. -/
  | separate (option : ValueOption) {value : String} {settings : List Setting}
      {arguments : List String} (free : IsFree value) (rest : Spells settings arguments) :
      Spells (.given option value :: settings) (("--" ++ option.name) :: value :: arguments)
  /-- A value may stand behind an equals sign, whatever it begins with. -/
  | attached (option : ValueOption) (value : String) {settings : List Setting}
      {arguments : List String} (rest : Spells settings arguments) :
      Spells (.given option value :: settings) (("--" ++ option.name ++ "=" ++ value) :: arguments)
  | shortSeparate {value : String} {settings : List Setting} {arguments : List String}
      (free : IsFree value) (rest : Spells settings arguments) :
      Spells (.given .out value :: settings) ("-o" :: value :: arguments)
  | shortEquals (value : String) {settings : List Setting} {arguments : List String}
      (rest : Spells settings arguments) :
      Spells (.given .out value :: settings) (("-o=" ++ value) :: arguments)
  /-- A value may follow the letter, if that leaves something to follow and no equals sign. -/
  | shortAttached {value : String} {settings : List Setting} {arguments : List String}
      (nonempty : value ≠ "") (noEquals : value.toList.head? ≠ some '=')
      (rest : Spells settings arguments) :
      Spells (.given .out value :: settings) (("-o" ++ value) :: arguments)
  | jobs {settings : List Setting} {arguments : List String} (rest : Spells settings arguments) :
      Spells (.jobs :: settings) ("--jobs" :: arguments)
  | quiet {text : String} {settings : List Setting} {arguments : List String}
      (spelled : text = "--quiet" ∨ text = "-q") (rest : Spells settings arguments) :
      Spells (.quiet :: settings) (text :: arguments)
  /-- The letter of a switch may stand before that of an option, in one argument. -/
  | clustered {letters : String} {settings : List Setting} {arguments : List String}
      (rest : Spells settings (("-o" ++ letters) :: arguments)) :
      Spells (.quiet :: settings) (("-qo" ++ letters) :: arguments)

/-- The numbers among settings, in order. -/
def numbers (settings : List Setting) : List Nat := settings.filterMap Setting.number?

/-- The values that settings give to an option, in order. -/
def values (option : ValueOption) (settings : List Setting) : List String :=
  settings.filterMap (Setting.valueOf? option)

/-- Settings give what a command line asks for, and nothing twice that may be given once only. -/
structure Give (settings : List Setting) (commandLine : CommandLine) : Prop where
  few : (numbers settings).length ≤ 3
  files : commandLine.files = (numbers settings)[0]?
  deps : commandLine.deps = (numbers settings)[1]?
  modules : commandLine.modules = (numbers settings)[2]?
  outOnce : (values .out settings).length ≤ 1
  out : commandLine.out = (values .out settings).head?.getD "."
  config : values .config settings = commandLine.config.toList
  backends : values .backend settings = commandLine.backends.map Backend.name
  manifest : values .manifest settings = commandLine.manifest.toList
  jobs : settings.count .jobs = commandLine.jobs.toNat
  quiet : settings.count .quiet = commandLine.quiet.toNat

/-- Arguments spell a command line. -/
def IsSpelling (arguments : List String) (commandLine : CommandLine) : Prop :=
  ∃ settings, Spells settings arguments ∧ Give settings commandLine

end BenchTree.CommandLine

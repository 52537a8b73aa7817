import BenchTree.Disk
import BenchTree.Mismatch
import BenchTree.Toml.Document

/-!
# Configurations

A configuration is a TOML document whose only key is `generate`. Its value is a table of settings
or the array of all five of them in order; further elements do not count. Keys are looked at in the
order of the document, and the first problem is reported.
-/

namespace BenchTree

/-- The settings that a configuration may give. -/
structure GenerateConfig where
  files : Option Nat
  deps : Option Nat
  modules : Option Nat
  backends : Option (List Backend)
  jobs : Option Bool
  deriving DecidableEq, Repr

/-- A configuration: its settings, if there are any. -/
structure Config where
  generate : Option GenerateConfig
  deriving DecidableEq, Repr

/-- Why a configuration is refused: not readable, not TOML, or not fitting. -/
inductive ConfigError where
  | storage (problem : IoError)
  | malformed
  | mismatch (problem : Mismatch)
  deriving DecidableEq, Repr

/-- The wording of a refusal; what does not fit is told on a second line. -/
def ConfigError.message : ConfigError → String
  | .storage problem => "IO error: " ++ problem.message
  | .malformed => "Invalid TOML: TOML parse error"
  | .mismatch problem => "Invalid TOML: TOML parse error\n" ++ problem.message

namespace GenerateConfig

/-- A configuration without settings. -/
def empty : GenerateConfig := ⟨none, none, none, none, none⟩

/-- The name of the record of settings, as messages tell it. -/
def recordName : String := "GenerateConfig"

/-- The keys of the settings, in order. -/
def keys : List String := ["files", "deps", "modules", "backends", "jobs"]

/-- The key that stands for a date or a time, which holds a table with this one key. -/
def momentKey : String := "$__toml_private_datetime"

/-- A number is an integer that is not negative. -/
def readNat (value : Toml.Value) : Except Mismatch Nat :=
  match value with
  | .integer number =>
      if 0 ≤ number then .ok number.toNat else .error (.value value.found .word)
  | _ => .error (.kind value.found .word)

/-- A truth value. -/
def readBool (value : Toml.Value) : Except Mismatch Bool :=
  match value with
  | .boolean truth => .ok truth
  | _ => .error (.kind value.found .boolean)

/-- A backend by its name, in any case of ASCII letters. -/
def readBackend (value : Toml.Value) : Except Mismatch Backend :=
  match value with
  | .string name =>
      match Backend.parse name with
      | .ok backend => .ok backend
      | .error unknown => .error (.unknownBackend unknown)
  | _ => .error (.kind value.found .string)

/-- A list of backends, each by its name. -/
def readBackends (value : Toml.Value) : Except Mismatch (List Backend) :=
  match value with
  | .array elements => elements.mapM readBackend
  | _ => .error (.kind value.found .sequence)

/-- Takes the setting that a key stands for. -/
def set (config : GenerateConfig) (key : String) (value : Toml.Value) :
    Except Mismatch GenerateConfig :=
  match key with
  | "files" => do return { config with files := some (← readNat value) }
  | "deps" => do return { config with deps := some (← readNat value) }
  | "modules" => do return { config with modules := some (← readNat value) }
  | "backends" => do return { config with backends := some (← readBackends value) }
  | "jobs" => do return { config with jobs := some (← readBool value) }
  | _ => .error (.unknownField key keys)

/-- The settings of the entries of a table. -/
def ofEntries (entries : List (String × Toml.Value)) : Except Mismatch GenerateConfig :=
  entries.foldlM (fun config (key, value) => config.set key value) empty

/-- Takes the settings of the given keys from the elements of an array, in order. -/
def setElements (config : GenerateConfig) :
    (index : Nat) → List String → List Toml.Value → Except Mismatch GenerateConfig
  | _, [], _ => .ok config
  | index, _ :: _, [] => .error (.length index recordName keys.length)
  | index, key :: rest, value :: values => do
      (← config.set key value).setElements (index + 1) rest values

/-- The settings of a value: a table, or an array that lists all of them. -/
def ofValue (value : Toml.Value) : Except Mismatch GenerateConfig :=
  match value with
  | .table entries => ofEntries entries
  | .array elements => setElements empty 0 keys elements
  | .moment => .error (.unknownField momentKey keys)
  | _ => .error (.kind value.found (.record recordName))

end GenerateConfig

namespace Config

/-- The key of the table that holds the settings. -/
def sectionKey : String := "generate"

/-- The configuration of the entries of a document. -/
def ofEntries (entries : List (String × Toml.Value)) : Except Mismatch Config :=
  entries.foldlM
    (fun _ (key, value) =>
      if key = sectionKey then do return ⟨some (← GenerateConfig.ofValue value)⟩
      else .error (.unknownField key [sectionKey]))
    ⟨none⟩

/-- The configuration of a TOML text. -/
def ofText (text : String) : Except ConfigError Config :=
  match Toml.parse? text with
  | none => .error .malformed
  | some entries =>
      match ofEntries entries with
      | .ok config => .ok config
      | .error problem => .error (.mismatch problem)

/-- The configuration in a file that was read. -/
def ofFile (text : Except IoError String) : Except ConfigError Config :=
  match text with
  | .ok text => ofText text
  | .error problem => .error (.storage problem)

/-- Loads the configuration in the file at a path. -/
def load (disk : Disk) (path : Path) : Except ConfigError Config := ofFile (disk.readText path)

end Config

end BenchTree

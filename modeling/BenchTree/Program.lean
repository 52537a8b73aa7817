import BenchTree.CommandLine.Help
import BenchTree.CommandLine.Parser
import BenchTree.Generator
import BenchTree.Manifest.Json
import BenchTree.Settings

/-!
# Runs of the program

A run reads a command line, then the configuration that it names, generates the tree on the disk,
and writes a manifest if one is asked for. Nothing is written before the command line and the
configuration are accepted.
-/

namespace BenchTree

/-- Why a run fails after its command line was accepted. -/
inductive RunError where
  | config (path : Path) (problem : ConfigError)
  | generate (problem : GenerateError)
  deriving DecidableEq, Repr

/-- What is told about a run that fails. -/
def RunError.message : RunError → String
  | .config path problem =>
      "Config error in file " ++ path.text ++ ": " ++ problem.message
  | .generate problem => problem.message

/-- What a run tells. -/
structure Report where
  exitCode : UInt32
  output : String
  errorText : String
  deriving DecidableEq, Repr

/-- What a run leaves behind. -/
structure RunResult where
  report : Report
  disk : Disk

namespace CommandLine

/-- The generator for a command line and a configuration, if one was read. -/
def generator (command : CommandLine) (config : Option Config) : Generator :=
  let settings := command.resolve config
  Generator.create settings.shape settings.backends settings.parallel

/-- The line that tells a completed run. -/
def completionLine (command : CommandLine) (summary : Summary) : String :=
  "Generated " ++ toString summary.modules ++ " modules (" ++ toString summary.sources
    ++ " sources, " ++ toString summary.descriptions ++ " build descriptions, "
    ++ toString summary.dependencyEdges ++ " dependency edges) in " ++ command.out ++ "\n"

/-- What an accepted command line tells about its run. -/
def report (command : CommandLine) (result : Except RunError Summary) : Report :=
  match result with
  | .ok summary => ⟨0, if command.quiet then "" else command.completionLine summary, ""⟩
  | .error problem => ⟨1, "", "Generation failed: " ++ problem.message ++ "\n"⟩

/-- What is told when the reading of a command line ends early. -/
def Interruption.report (effect : Text.BlankEffect) : Interruption → Report
  | .help isLong => ⟨0, helpText isLong, ""⟩
  | .version => ⟨0, versionText, ""⟩
  | .usage problem => ⟨2, "", problem.wording effect ++ "\n"⟩

end CommandLine

/-! ## Runs on any file system -/

namespace FileSystem

variable {m : Type → Type} [Monad m] (system : FileSystem m)

/-- Writes a manifest as JSON to a file. -/
@[specialize]
def saveManifest (manifest : Manifest) (path : Path) : m (Except GenerateError Unit) := do
  let written ← system.writeFile path (manifest.toJson.toText .pretty).toUTF8
  return written.mapError .storage

/-- Reads the configuration that a command line names; without one nothing is read. -/
@[specialize]
def loadConfig (command : CommandLine) : m (Except RunError (Option Config)) := do
  match command.config with
  | none => return .ok none
  | some text =>
      match Config.ofFile (← system.readText ⟨text⟩) with
      | .ok config => return .ok (some config)
      | .error problem => return .error (.config ⟨text⟩ problem)

/-- Generates the tree, and writes the manifest if a path for it is given. -/
@[specialize]
def generate (command : CommandLine) (generator : Generator) :
    m (Except GenerateError Summary) := do
  match ← generator.carryOut system.perform ⟨command.out⟩ command.manifest.isSome with
  | .error problem => return .error problem
  | .ok manifest =>
      match command.manifest with
      | none => return .ok manifest.summary
      | some path =>
          let saved ← system.saveManifest manifest ⟨path⟩
          return saved.map fun _ => manifest.summary

/-- Carries out what an accepted command line asks for. -/
@[specialize]
def execute (command : CommandLine) : m (Except RunError Summary) := do
  match ← system.loadConfig command with
  | .error problem => return .error problem
  | .ok config =>
      let generated ← system.generate command (command.generator config)
      return generated.mapError .generate

/-- Runs the program with the given arguments, quoting refused ones by the given rule. -/
@[specialize]
def run (effect : Text.BlankEffect) (arguments : List String) : m Report := do
  match CommandLine.parse arguments with
  | .ok command => return command.report (← system.execute command)
  | .error interruption => return interruption.report effect

end FileSystem

/-! ## Runs on a disk -/

/-- Writes a manifest as JSON to a file of a disk. -/
def Manifest.save (manifest : Manifest) (path : Path) (disk : Disk) :
    Except GenerateError Unit × Disk :=
  (Disk.system.saveManifest manifest path).run disk

namespace CommandLine

/-- Reads the configuration that a command line names from a disk. -/
def loadConfig (command : CommandLine) (disk : Disk) : Except RunError (Option Config) :=
  ((Disk.system.loadConfig command).run disk).1

/-- Generates the tree on a disk, and writes the manifest if a path for it is given. -/
def generate (command : CommandLine) (generator : Generator) (disk : Disk) :
    Except GenerateError Summary × Disk :=
  (Disk.system.generate command generator).run disk

/-- Carries out on a disk what an accepted command line asks for. -/
def execute (command : CommandLine) (disk : Disk) : Except RunError Summary × Disk :=
  (Disk.system.execute command).run disk

end CommandLine

/-- Runs the program on a disk. -/
def runProgram (effect : Text.BlankEffect) (arguments : List String) (disk : Disk) : RunResult :=
  let (report, disk) := (Disk.system.run effect arguments).run disk
  ⟨report, disk⟩

theorem Manifest.save_eq (manifest : Manifest) (path : Path) (disk : Disk) :
    manifest.save path disk =
      match disk.writeFile path (manifest.toJson.toText .pretty).toUTF8 with
      | .ok disk => (.ok (), disk)
      | .error problem => (.error (.storage problem), disk) := by
  rw [save, FileSystem.saveManifest, StateT.run_bind, Disk.run_writeFile]
  cases disk.writeFile path (manifest.toJson.toText .pretty).toUTF8 <;> rfl

namespace CommandLine

variable (command : CommandLine) (disk : Disk)

theorem loadConfig_of_none (unnamed : command.config = none) :
    command.loadConfig disk = .ok none := by
  rw [loadConfig, FileSystem.loadConfig, unnamed]
  rfl

/-- What is read from a file and what becomes of it. -/
theorem run_loadConfig_of_some {path : String} (named : command.config = some path) :
    (Disk.system.loadConfig command).run disk =
      match Config.load disk ⟨path⟩ with
      | .ok config => (.ok (some config), disk)
      | .error problem => (.error (.config ⟨path⟩ problem), disk) := by
  rw [FileSystem.loadConfig, named]
  change (Disk.system.readText ⟨path⟩ >>= _).run disk = _
  rw [StateT.run_bind]
  change StateT.run (match Config.load disk ⟨path⟩ with | .ok _ => _ | .error _ => _) disk = _
  cases Config.load disk ⟨path⟩ <;> rfl

theorem loadConfig_of_some {path : String} (named : command.config = some path) :
    command.loadConfig disk =
      match Config.load disk ⟨path⟩ with
      | .ok config => .ok (some config)
      | .error problem => .error (.config ⟨path⟩ problem) := by
  rw [loadConfig, run_loadConfig_of_some command disk named]
  cases Config.load disk ⟨path⟩ <;> rfl

/-- Reading a configuration changes nothing. -/
theorem run_loadConfig :
    (Disk.system.loadConfig command).run disk = (command.loadConfig disk, disk) := by
  cases named : command.config with
  | none =>
    rw [loadConfig_of_none command disk named, FileSystem.loadConfig, named]
    rfl
  | some path =>
    rw [loadConfig_of_some command disk named, run_loadConfig_of_some command disk named]
    cases Config.load disk ⟨path⟩ <;> rfl

theorem generate_eq (generator : Generator) :
    command.generate generator disk =
      match generator.run Disk.sink ⟨command.out⟩ command.manifest.isSome disk with
      | (.error problem, disk) => (.error problem, disk)
      | (.ok manifest, disk) =>
          match command.manifest with
          | none => (.ok manifest.summary, disk)
          | some path =>
              let (saved, disk) := manifest.save ⟨path⟩ disk
              (saved.map fun _ => manifest.summary, disk) := by
  rw [generate, FileSystem.generate, StateT.run_bind]
  change (bind (m := Id) (generator.run Disk.sink ⟨command.out⟩ command.manifest.isSome disk) _) = _
  rcases generator.run Disk.sink ⟨command.out⟩ command.manifest.isSome disk with ⟨_ | _, _⟩
  · rfl
  · cases command.manifest <;> rfl

theorem execute_eq :
    command.execute disk =
      match command.loadConfig disk with
      | .error problem => (.error problem, disk)
      | .ok config =>
          let (result, disk) := command.generate (command.generator config) disk
          (result.mapError .generate, disk) := by
  rw [execute, FileSystem.execute, StateT.run_bind, run_loadConfig]
  cases command.loadConfig disk <;> rfl

end CommandLine

theorem runProgram_eq (effect : Text.BlankEffect) (arguments : List String) (disk : Disk) :
    runProgram effect arguments disk =
      match CommandLine.parse arguments with
      | .ok command =>
          let (result, disk) := command.execute disk
          ⟨command.report result, disk⟩
      | .error interruption => ⟨interruption.report effect, disk⟩ := by
  rw [runProgram, FileSystem.run]
  cases CommandLine.parse arguments <;> rfl

end BenchTree

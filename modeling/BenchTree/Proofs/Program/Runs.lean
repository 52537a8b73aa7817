import BenchTree.Proofs.Parallel.Sequential
import BenchTree.Program

/-!
# The runs of the program

When modules may be worked on in parallel, a run of the program depends on the order in which the
generator's workers take their turns. All runs that this allows are described here. They read the
command line and the configuration alike; the generator ends in one of the ways it may end in, and
then the manifest is written if there is to be one. The program's own run, which takes the modules
one after another, is one of them.
-/

namespace BenchTree

namespace CommandLine

/-- The generation that a command line asks for may end with a result and leave a disk behind. -/
inductive MayGenerate (command : CommandLine) (generator : Generator) (disk : Disk) :
    Except GenerateError Summary → Disk → Prop where
  | failed {problem : GenerateError} {final : Disk}
      (mayEnd : generator.MayEnd Disk.sink ⟨command.out⟩ command.manifest.isSome disk
        (.error problem) final) : MayGenerate command generator disk (.error problem) final
  | counted {manifest : Manifest} {final : Disk} (unasked : command.manifest = none)
      (mayEnd : generator.MayEnd Disk.sink ⟨command.out⟩ false disk (.ok manifest) final) :
      MayGenerate command generator disk (.ok manifest.summary) final
  | saved {path : String} {manifest : Manifest} {generated final : Disk}
      (asked : command.manifest = some path)
      (mayEnd : generator.MayEnd Disk.sink ⟨command.out⟩ true disk (.ok manifest) generated)
      (saved : manifest.save ⟨path⟩ generated = (.ok (), final)) :
      MayGenerate command generator disk (.ok manifest.summary) final
  | unsaved {path : String} {manifest : Manifest} {generated final : Disk}
      {problem : GenerateError} (asked : command.manifest = some path)
      (mayEnd : generator.MayEnd Disk.sink ⟨command.out⟩ true disk (.ok manifest) generated)
      (unsaved : manifest.save ⟨path⟩ generated = (.error problem, final)) :
      MayGenerate command generator disk (.error problem) final

/-- The run of an accepted command line may end with a result and leave a disk behind. -/
inductive MayExecute (command : CommandLine) (disk : Disk) :
    Except RunError Summary → Disk → Prop where
  | refused {problem : RunError} (refused : command.loadConfig disk = .error problem) :
      MayExecute command disk (.error problem) disk
  | generated {config : Option Config} {result : Except GenerateError Summary} {final : Disk}
      (loaded : command.loadConfig disk = .ok config)
      (mayGenerate : command.MayGenerate (command.generator config) disk result final) :
      MayExecute command disk (result.mapError .generate) final

theorem mayGenerate_generate (command : CommandLine) (generator : Generator) (disk : Disk) :
    command.MayGenerate generator disk (command.generate generator disk).1
      (command.generate generator disk).2 := by
  have mayEnd := generator.mayEnd_run Disk.sink ⟨command.out⟩ command.manifest.isSome disk
  rcases ran : generator.run Disk.sink ⟨command.out⟩ command.manifest.isSome disk with
    ⟨result, generated⟩
  rw [ran] at mayEnd
  rw [generate_eq, ran]
  cases result with
  | error problem => exact .failed mayEnd
  | ok manifest =>
      cases asked : command.manifest with
      | none =>
          rw [asked] at mayEnd
          exact .counted asked mayEnd
      | some path =>
          rw [asked] at mayEnd
          rcases saved : manifest.save ⟨path⟩ generated with ⟨written, final⟩
          simp only [saved]
          cases written with
          | error problem => exact .unsaved asked mayEnd saved
          | ok _ => exact .saved asked mayEnd saved

theorem mayExecute_execute (command : CommandLine) (disk : Disk) :
    command.MayExecute disk (command.execute disk).1 (command.execute disk).2 := by
  rw [execute_eq]
  cases loaded : command.loadConfig disk with
  | error problem => exact .refused loaded
  | ok config => exact .generated loaded (command.mayGenerate_generate _ disk)

end CommandLine

/-- The program may come to a result for its arguments. -/
inductive MayRun (effect : Text.BlankEffect) (arguments : List String) (disk : Disk) :
    RunResult → Prop where
  | interrupted {interruption : CommandLine.Interruption}
      (parsed : CommandLine.parse arguments = .error interruption) :
      MayRun effect arguments disk ⟨interruption.report effect, disk⟩
  | executed {command : CommandLine} {result : Except RunError Summary} {final : Disk}
      (parsed : CommandLine.parse arguments = .ok command)
      (mayExecute : command.MayExecute disk result final) :
      MayRun effect arguments disk ⟨command.report result, final⟩

/-- The program's own run is one of those that are possible. -/
theorem mayRun_runProgram (effect : Text.BlankEffect) (arguments : List String) (disk : Disk) :
    MayRun effect arguments disk (runProgram effect arguments disk) := by
  rw [runProgram_eq]
  cases parsed : CommandLine.parse arguments with
  | error interruption => exact .interrupted parsed
  | ok command => exact .executed parsed (command.mayExecute_execute disk)

section

variable {effect : Text.BlankEffect} {arguments : List String} {disk : Disk} {outcome : RunResult}

theorem MayRun.eq_of_parse_eq_error {interruption : CommandLine.Interruption}
    (mayRun : MayRun effect arguments disk outcome)
    (parsed : CommandLine.parse arguments = .error interruption) :
    outcome = ⟨interruption.report effect, disk⟩ := by
  cases mayRun with
  | interrupted other =>
      rw [parsed] at other
      rw [Except.error.inj other]
  | executed other =>
      rw [parsed] at other
      cases other

theorem MayRun.exists_mayExecute {command : CommandLine}
    (mayRun : MayRun effect arguments disk outcome)
    (parsed : CommandLine.parse arguments = .ok command) :
    ∃ result, outcome.report = command.report result ∧
      command.MayExecute disk result outcome.disk := by
  cases mayRun with
  | interrupted other =>
      rw [parsed] at other
      cases other
  | executed other mayExecute =>
      rw [parsed] at other
      obtain rfl := Except.ok.inj other
      exact ⟨_, rfl, mayExecute⟩

end

end BenchTree

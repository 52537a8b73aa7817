import BenchTree.Proofs.Config.Words
import BenchTree.Proofs.Manifest.Printing
import BenchTree.Proofs.Program.CompletionLine
import BenchTree.Proofs.Program.Runs
import BenchTree.Proofs.Run.Requests

/-!
# Completed runs

A run succeeds exactly when its configuration is read, its shape is accepted, every call succeeds
and the manifest, if there is to be one, can be written. Then it leaves what a generator that is
given the same shape and backends leaves below the same root, apart from the manifest's own file.
Whether modules are worked on in parallel, and whether there is to be a manifest, makes no
difference to anything else.
-/

namespace BenchTree

open Generator (create completeManifest)

namespace Generator

variable {shape : Shape} {backends : List Backend} {parallel recording : Bool} {root : Path}
  {disk generated : Disk}

/-- A manifest counts in words, as far as its shape does. -/
theorem isWords_completeManifest (words : shape.IsWords) :
    (completeManifest shape backends parallel).IsWords := by
  refine ⟨words, ⟨words.modules, min_le_right _ _, min_le_right _ _, ?_⟩⟩
  exact min_le_right _ _

variable {final : Disk}

/-- Where all calls succeed in their order, every run completes and shows the same. -/
theorem MayEnd.exists_alike_of_performs {result : Except GenerateError Manifest}
    (mayEnd : (create shape backends parallel).MayEnd Disk.sink root recording disk result final)
    (valid : shape.validate = .ok ())
    (performed : Disk.sink.Performs disk
      (((create shape backends parallel).plan root).calls.map .request) generated) :
    ∃ manifest, result = .ok manifest ∧ final.Alike generated := by
  rcases (performs_iff valid false).mp performed with ⟨quiet, ran⟩
  have own := (create shape backends parallel).mayEnd_run Disk.sink root false disk
  rw [ran] at own
  rcases (mayEnd.exists_eq_ok_iff own).mpr ⟨quiet, rfl⟩ with ⟨manifest, rfl⟩
  exact ⟨manifest, rfl, mayEnd.alike own⟩

/-- Where some run completes, all calls succeed in their order. -/
theorem MayEnd.exists_performs {manifest : Manifest}
    (mayEnd : (create shape backends parallel).MayEnd Disk.sink root recording disk (.ok manifest)
      final) :
    shape.validate = .ok () ∧ ∃ generated, Disk.sink.Performs disk
      (((create shape backends parallel).plan root).calls.map .request) generated := by
  have valid : shape.validate = .ok () := mayEnd.exists_replays.1
  have own := (create shape backends parallel).mayEnd_run Disk.sink root false disk
  rcases (mayEnd.exists_eq_ok_iff own).mp ⟨manifest, rfl⟩ with ⟨quiet, ran⟩
  exact ⟨valid, _, (performs_iff valid false).mpr ⟨quiet, Prod.ext ran rfl⟩⟩

end Generator

namespace Manifest

variable {manifest : Manifest} {path : Path} {left right disk final : Disk}

/-- What is saved of a manifest can be read back. -/
theorem parse_pretty (words : manifest.IsWords) :
    Json.parse readJson (manifest.toJson.toText .pretty) = .ok manifest :=
  (roundTrips_of_takes (fun blank => manifest.spells_render blank 0) (takes_spelled words)).pretty

theorem save_eq_ok_iff :
    manifest.save path disk = (.ok (), final) ↔
      disk.writeFile path (manifest.toJson.toText .pretty).toUTF8 = .ok final := by
  rw [save_eq]
  cases written : disk.writeFile path (manifest.toJson.toText .pretty).toUTF8 with
  | error problem => simp
  | ok next => simp

/-- What cannot be written leaves the disk as it was. -/
theorem eq_of_save_eq_error {problem : GenerateError}
    (unsaved : manifest.save path disk = (.error problem, final)) : final = disk := by
  rw [save_eq] at unsaved
  split at unsaved
  · cases unsaved
  · exact (Prod.mk.inj unsaved).2.symm

/-- Disks that show the same take a manifest alike. -/
theorem exists_save_of_alike (alike : left.Alike right)
    (saved : manifest.save path left = (.ok (), final)) :
    ∃ other, manifest.save path right = (.ok (), other) := by
  rcases alike.writeFile (save_eq_ok_iff.mp saved) with ⟨other, written, _⟩
  exact ⟨other, save_eq_ok_iff.mpr written⟩

end Manifest

namespace CommandLine

/-- The tree that a run is asked for can be generated: the configuration is read, the shape is
accepted, and all calls succeed. -/
structure Completes (command : CommandLine) (disk : Disk) (config : Option Config)
    (generated : Disk) : Prop where
  loaded : command.loadConfig disk = .ok config
  valid : (command.resolve config).shape.validate = .ok ()
  performed : Disk.sink.Performs disk
    (((command.generator config).plan ⟨command.out⟩).calls.map .request) generated

/-- The manifest of the tree that a run is asked for. -/
def manifestFor (command : CommandLine) (config : Option Config) : Manifest :=
  completeManifest (command.resolve config).shape (command.resolve config).backends false

/-- The manifest can be written, if there is to be one. -/
def CanSave (command : CommandLine) (manifest : Manifest) (generated : Disk) : Prop :=
  ∀ path, command.manifest = some path →
    ∃ saved, manifest.save ⟨path⟩ generated = (.ok (), saved)

/-- What a run that succeeds leaves behind: the tree, the manifest if there is to be one, and a line
about them if nothing says to be quiet. -/
structure Succeeds (command : CommandLine) (manifest : Manifest) (generated : Disk)
    (outcome : RunResult) : Prop where
  exitCode : outcome.report.exitCode = 0
  output : outcome.report.output =
    if command.quiet then "" else command.completionLine manifest.summary
  elsewhere : ∀ place,
    (∀ path, command.manifest = some path → outcome.disk.locate ⟨path⟩ ≠ .ok place) →
    outcome.disk.find? place = generated.find? place
  saved : ∀ path, command.manifest = some path → ∃ text,
    outcome.disk.readText ⟨path⟩ = .ok text ∧ text = manifest.toJson.toText .pretty ∧
      Json.parse Manifest.readJson text = .ok manifest

/-- Unless it is to be quiet, a run that succeeds tells all counts of its manifest, and where the
tree is. -/
theorem Succeeds.readCompletionLine?_output {command : CommandLine} {manifest : Manifest}
    {generated : Disk} {outcome : RunResult}
    (succeeds : command.Succeeds manifest generated outcome) (loud : command.quiet = false) :
    readCompletionLine? outcome.report.output = some (manifest.summary, command.out) := by
  rw [succeeds.output, loud]
  exact readCompletionLine?_completionLine command manifest.summary

variable {command : CommandLine} {disk generated final : Disk} {shape : Shape}
  {backends : List Backend} {parallel : Bool}

/-- How a run may end that generates the whole tree. -/
inductive Ending (command : CommandLine) (manifest : Manifest) (generated : Disk) :
    Except GenerateError Summary → Disk → Prop where
  | counted {left : Disk} (unasked : command.manifest = none) (alike : left.Alike generated) :
      Ending command manifest generated (.ok manifest.summary) left
  | saved {path : String} {left final : Disk} (asked : command.manifest = some path)
      (alike : left.Alike generated) (saved : manifest.save ⟨path⟩ left = (.ok (), final)) :
      Ending command manifest generated (.ok manifest.summary) final
  | unsaved {path : String} {left : Disk} {problem : GenerateError}
      (asked : command.manifest = some path) (alike : left.Alike generated)
      (unsaved : manifest.save ⟨path⟩ left = (.error problem, left)) :
      Ending command manifest generated (.error problem) left

theorem MayGenerate.ending {result : Except GenerateError Summary}
    (mayGenerate : command.MayGenerate (create shape backends parallel) disk result final)
    (valid : shape.validate = .ok ())
    (performed : Disk.sink.Performs disk
      (((create shape backends parallel).plan ⟨command.out⟩).calls.map .request) generated) :
    command.Ending (completeManifest shape backends false) generated result final := by
  cases mayGenerate with
  | failed mayEnd =>
      rcases mayEnd.exists_alike_of_performs valid performed with ⟨manifest, failed, _⟩
      cases failed
  | counted unasked mayEnd =>
      rcases mayEnd.exists_alike_of_performs valid performed with ⟨manifest, same, alike⟩
      rw [mayEnd.summary_eq]
      exact .counted unasked alike
  | saved asked mayEnd saved =>
      rcases mayEnd.exists_alike_of_performs valid performed with ⟨manifest, same, alike⟩
      rw [mayEnd.summary_eq]
      rw [mayEnd.manifest_eq] at saved
      exact .saved asked alike saved
  | unsaved asked mayEnd unsaved =>
      rcases mayEnd.exists_alike_of_performs valid performed with ⟨manifest, same, alike⟩
      -- A manifest that is not written leaves the disk behind that the run came to.
      rw [mayEnd.manifest_eq] at unsaved
      obtain rfl := Manifest.eq_of_save_eq_error unsaved
      exact .unsaved asked alike unsaved

theorem MayGenerate.exists_performs {summary : Summary}
    (mayGenerate : command.MayGenerate (create shape backends parallel) disk (.ok summary) final) :
    shape.validate = .ok () ∧ ∃ generated, Disk.sink.Performs disk
      (((create shape backends parallel).plan ⟨command.out⟩).calls.map .request) generated := by
  cases mayGenerate with
  | counted _ mayEnd => exact mayEnd.exists_performs
  | saved _ mayEnd _ => exact mayEnd.exists_performs

namespace Ending

variable {manifest : Manifest} {result : Except GenerateError Summary} {summary : Summary}

/-- A run that generates the whole tree succeeds exactly when the manifest can be written. -/
theorem ok_iff (ending : command.Ending manifest generated result final) :
    (∃ summary, result = .ok summary) ↔ command.CanSave manifest generated := by
  cases ending with
  | counted unasked alike =>
      refine ⟨fun _ path asked => ?_, fun _ => ⟨_, rfl⟩⟩
      rw [unasked] at asked
      cases asked
  | saved asked alike saved =>
      refine ⟨fun _ path same => ?_, fun _ => ⟨_, rfl⟩⟩
      obtain rfl := Option.some.inj (asked.symm.trans same)
      exact Manifest.exists_save_of_alike alike saved
  | unsaved asked alike unsaved =>
      constructor
      · rintro ⟨_, succeeded⟩
        cases succeeded
      · intro can
        rcases can _ asked with ⟨saved, saved_eq⟩
        rcases Manifest.exists_save_of_alike alike.symm saved_eq with ⟨other, other_eq⟩
        rw [unsaved] at other_eq
        cases other_eq

theorem succeeds (ending : command.Ending manifest generated (.ok summary) final)
    (words : manifest.IsWords) :
    command.Succeeds manifest generated ⟨command.report (.ok summary), final⟩ := by
  cases ending with
  | counted unasked alike =>
      refine ⟨rfl, rfl, fun place _ => alike.find?_eq place, fun path asked => ?_⟩
      rw [unasked] at asked
      cases asked
  | saved asked alike saved =>
      rcases Disk.exists_written_of_writeFile (Manifest.save_eq_ok_iff.mp saved) with
        ⟨spot, written⟩
      refine ⟨rfl, rfl, fun place unlike => ?_, fun path same => ?_⟩
      · have elsewhere : place ≠ spot := by
          rintro rfl
          exact unlike _ asked written.located
        exact (written.gains.elsewhere place elsewhere).trans (alike.find?_eq place)
      · obtain rfl := Option.some.inj (asked.symm.trans same)
        exact ⟨_, written.readText, rfl, Manifest.parse_pretty words⟩

/-- A run that succeeds and is to write a manifest writes it behind the tree. -/
theorem exists_written {path : String}
    (ending : command.Ending manifest generated (.ok summary) final)
    (asked : command.manifest = some path) :
    ∃ (left : Disk) (spot : Location), left.Alike generated ∧
      left.Written ⟨path⟩ spot (manifest.toJson.toText .pretty).toUTF8 final := by
  cases ending with
  | counted unasked _ =>
      rw [unasked] at asked
      cases asked
  | saved same alike saved =>
      obtain rfl := Option.some.inj (same.symm.trans asked)
      rcases Disk.exists_written_of_writeFile (Manifest.save_eq_ok_iff.mp saved) with
        ⟨spot, written⟩
      exact ⟨_, spot, alike, written⟩

end Ending

theorem MayExecute.exists_completes {summary : Summary}
    (mayExecute : command.MayExecute disk (.ok summary) final) :
    ∃ config generated, command.Completes disk config generated := by
  generalize result_eq : Except.ok summary = result at mayExecute
  cases mayExecute with
  | refused _ => cases result_eq
  | @generated config ended _ loaded mayGenerate =>
      cases ended with
      | error problem => cases result_eq
      | ok counted =>
          rcases mayGenerate.exists_performs with ⟨valid, generated, performed⟩
          exact ⟨config, generated, loaded, valid, performed⟩

theorem Completes.exists_ending {config : Option Config} {result : Except RunError Summary}
    (completes : command.Completes disk config generated)
    (mayExecute : command.MayExecute disk result final) :
    ∃ ended : Except GenerateError Summary, result = ended.mapError .generate ∧
      command.Ending (command.manifestFor config) generated ended final := by
  cases mayExecute with
  | refused refused =>
      rw [completes.loaded] at refused
      cases refused
  | generated loaded mayGenerate =>
      rw [completes.loaded] at loaded
      obtain rfl := Except.ok.inj loaded
      exact ⟨_, rfl, mayGenerate.ending completes.valid completes.performed⟩

theorem Completes.ending {config : Option Config} {summary : Summary}
    (completes : command.Completes disk config generated)
    (mayExecute : command.MayExecute disk (.ok summary) final) :
    command.Ending (command.manifestFor config) generated (.ok summary) final := by
  rcases completes.exists_ending mayExecute with ⟨ended, same, ending⟩
  cases ended with
  | error problem => cases same
  | ok counted =>
      obtain rfl := Except.ok.inj same
      exact ending

/-- The manifest of a completed run counts in words, wherever its numbers come from. -/
theorem Completes.isWords {arguments : List String} {config : Option Config}
    (completes : command.Completes disk config generated)
    (parsed : parse arguments = .ok command) : (command.manifestFor config).IsWords := by
  apply Generator.isWords_completeManifest
  refine isWords_resolve (parse_eq_ok_iff.mp parsed).isOrdered fun given given_mem => ?_
  have loaded := completes.loaded
  rw [Option.mem_def.mp given_mem] at loaded
  cases named : command.config with
  | none =>
      rw [loadConfig_of_none command disk named] at loaded
      cases Except.ok.inj loaded
  | some path =>
      rw [loadConfig_of_some command disk named] at loaded
      split at loaded
      · rename_i accepted
        obtain rfl := Option.some.inj (Except.ok.inj loaded)
        exact Config.isWords_of_load accepted
      · cases loaded

end CommandLine

section

variable {arguments : List String} {command : CommandLine} {effect : Text.BlankEffect}
  {disk generated : Disk} {config : Option Config} {outcome : RunResult}

end

end BenchTree

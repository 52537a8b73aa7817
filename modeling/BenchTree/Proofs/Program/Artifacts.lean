import BenchTree.Proofs.Program.Completion

/-!
# Artifacts that a manifest lists

A manifest is written behind the artifacts that it lists, and nothing compares its path with theirs.
Wherever it leads, every artifact is still found under its path. It holds the text that was
generated for it, unless the path of the manifest leads to the same file: that one was written over.
-/

namespace BenchTree

open Generator (create completeManifest)

namespace Disk

variable {base disk next final : Disk} {place spot : Location} {root path : Path} {shape : Shape}
  {backends : List Backend} {artifact : Artifact} {content : ByteArray}

/-- An artifact is found where the path that it was written to leads. -/
structure Holds (disk : Disk) (root : Path) (shape : Shape) (artifact : Artifact)
    (place : Location) : Prop where
  leads : disk.LeadsTo ((Node.file artifact).parent root) place
  can : CanName ((Node.file artifact).parent root) artifact.ownName
  found : disk.find? (place ++ [artifact.ownName]) = some (.file (artifact.text shape).toUTF8)

theorem Carries.exists_holds
    (carries : disk.Carries base place root shape (Tree.plan root shape backends).calls)
    (leads : base.LeadsTo root place) (belongs : artifact.Belongs shape backends) :
    ∃ above, disk.Holds root shape artifact above := by
  have written : (Node.file artifact).call root shape ∈ (Tree.plan root shape backends).calls :=
    Node.call_mem_plan.mpr belongs
  refine ⟨place ++ (Node.file artifact).above, ?_, (carries.admitted _ written).can, ?_⟩
  · refine carries.leadsTo leads fun other module same author_eq => ?_
    obtain rfl := Node.file.inj same
    have made : (Node.directory module).Belongs shape backends := belongs.author_lt author_eq
    exact Node.call_mem_plan.mpr made
  · rw [List.append_assoc]
    exact carries.there _ written

theorem Holds.alike (holds : disk.Holds root shape artifact place) (alike : disk.Alike next) :
    next.Holds root shape artifact place := by
  refine ⟨alike.grows.leadsTo holds.leads, holds.can, ?_⟩
  rw [← alike.find?_eq, holds.found]

/-- When some file is written, an artifact is found where it was, and it holds its text unless it
is the file that was written. -/
theorem Holds.of_written (holds : disk.Holds root shape artifact place)
    (written : disk.Written path spot content next) :
    ∃ there, next.locate (artifact.path root) = .ok there ∧
      (next.locate path ≠ .ok there →
        next.find? there = some (.file (artifact.text shape).toUTF8)) ∧
      (next.locate path = .ok there → next.find? there = some (.file content)) := by
  have path_eq : artifact.path root =
      ((Node.file artifact).parent root).join artifact.ownName :=
    (Call.writeFile.inj (Node.call_file root shape artifact)).1
  have leads := written.grows.leadsTo holds.leads
  have there : next.locate (artifact.path root) = .ok (place ++ [artifact.ownName]) := by
    rcases written.grows.kept _ _ holds.found with ⟨later, later_found, _⟩
    rw [path_eq]
    refine (leads.locate_join (Node.file artifact).isOrdinary_ownName holds.can).trans (if_pos ?_)
    rw [Node.ownName, later_found]
    rfl
  refine ⟨_, there, fun unlike => ?_, fun same => ?_⟩
  · have elsewhere : place ++ [artifact.ownName] ≠ spot := by
      rintro rfl
      exact unlike written.located
    rw [written.gains.elsewhere _ elsewhere, holds.found]
  · rw [written.located] at same
    rw [← Except.ok.inj same, written.gains.here]

end Disk

/-- Where all calls succeed in their order, all artifacts are found under their paths. -/
theorem CommandLine.Completes.exists_holds {command : CommandLine} {disk generated : Disk}
    {config : Option Config} {artifact : Artifact}
    (completes : command.Completes disk config generated)
    (belongs : artifact.Belongs (command.resolve config).shape (command.resolve config).backends) :
    ∃ place, generated.Holds ⟨command.out⟩ (command.resolve config).shape artifact place := by
  rcases (Generator.performs_iff completes.valid false).mp completes.performed with ⟨quiet, ran⟩
  have own := (command.generator config).mayEnd_run Disk.sink ⟨command.out⟩ false disk
  rw [generator, ran] at own
  rcases own.exists_takes with ⟨base, place, takes, carries⟩
  exact carries.exists_holds takes.leads (Artifact.belongs_distinct.mpr belongs)

section

variable {arguments : List String} {command : CommandLine} {effect : Text.BlankEffect}
  {disk : Disk} {outcome : RunResult} {path : String}

/-- A run that succeeds and is to write a manifest generates the whole tree, and then writes it. -/
theorem MayRun.exists_written (mayRun : MayRun effect arguments disk outcome)
    (parsed : CommandLine.parse arguments = .ok command) (asked : command.manifest = some path)
    (succeeded : outcome.report.exitCode = 0) :
    ∃ (config : Option Config) (generated left : Disk) (spot : Location),
      command.Completes disk config generated ∧ left.Alike generated ∧
      left.Written ⟨path⟩ spot ((command.manifestFor config).toJson.toText .pretty).toUTF8
        outcome.disk := by
  rcases mayRun.exists_mayExecute parsed with ⟨result, report_eq, mayExecute⟩
  cases result with
  | error problem =>
      rw [report_eq] at succeeded
      cases succeeded
  | ok summary =>
      rcases mayExecute.exists_completes with ⟨config, generated, completes⟩
      rcases (completes.ending mayExecute).exists_written asked with ⟨left, spot, alike, written⟩
      exact ⟨config, generated, left, spot, completes, alike, written⟩

/-- After a run that succeeds and that was to write a manifest, the manifest can be read under its
path. All artifacts that it lists are files that are found under their paths below the root. Each
holds the text that was generated for it, except one that the path of the manifest leads to. -/
theorem listed_artifacts_found (parsed : CommandLine.parse arguments = .ok command)
    (asked : command.manifest = some path) (mayRun : MayRun effect arguments disk outcome)
    (succeeded : outcome.report.exitCode = 0) :
    ∃ (config : Option Config) (text : String),
      command.loadConfig disk = .ok config ∧
      outcome.disk.readText ⟨path⟩ = .ok text ∧
      Json.parse Manifest.readJson text = .ok (command.manifestFor config) ∧
      ∀ listed ∈ (command.manifestFor config).artifacts, ∃ (artifact : Artifact) (place : Location),
        artifact.Belongs (command.resolve config).shape (command.resolve config).backends ∧
        listed = artifact.listed ∧
        outcome.disk.locate (Path.join ⟨command.out⟩ listed.text) = .ok place ∧
        (outcome.disk.locate ⟨path⟩ ≠ .ok place → outcome.disk.find? place =
          some (.file (artifact.text (command.resolve config).shape).toUTF8)) ∧
        (outcome.disk.locate ⟨path⟩ = .ok place →
          outcome.disk.find? place = some (.file text.toUTF8)) := by
  rcases mayRun.exists_written parsed asked succeeded with
    ⟨config, generated, left, spot, completes, alike, written⟩
  refine ⟨config, _, completes.loaded, written.readText,
    Manifest.parse_pretty (completes.isWords parsed), ?_⟩
  intro listed listed_mem
  rcases (Generator.mem_artifacts ..).mp listed_mem with ⟨artifact, belongs, rfl⟩
  rcases completes.exists_holds belongs with ⟨above, holds⟩
  rcases (holds.alike alike.symm).of_written written with ⟨place, located, effects⟩
  exact ⟨artifact, place, belongs, rfl, by rwa [artifact.join_listed], effects⟩

theorem listed_artifacts_found_manifest_beside :
    let arguments := ["1", "0", "1", "--out=out", "--manifest=out/../m.json", "--jobs"]
    let outcome := runProgram .ends arguments (.empty "work")
    outcome.report.exitCode = 0 ∧ ∃ place,
      outcome.disk.locate (Path.join ⟨"out"⟩ "main.c") = .ok place ∧
      outcome.disk.find? place = some (.file (Source.main 1).toUTF8) := by
  intro arguments outcome
  have parsed : CommandLine.parse arguments = .ok
      ⟨some 1, some 0, some 1, "out", none, [], true, some "out/../m.json", false⟩ := by rfl
  have exitCode_eq : outcome.report.exitCode = 0 := by decide +kernel
  have apart : outcome.disk.locate ⟨"out/../m.json"⟩ ≠
      outcome.disk.locate (Path.join ⟨"out"⟩ "main.c") := by decide +kernel
  have possible : MayRun .ends arguments (.empty "work") outcome := mayRun_runProgram _ _ _
  rcases listed_artifacts_found parsed rfl possible exitCode_eq with
    ⟨config, text, loaded, _, _, found⟩
  obtain rfl := Except.ok.inj ((CommandLine.loadConfig_of_none _ _ rfl).symm.trans loaded)
  rcases found ⟨"main.c"⟩ ((Generator.mem_artifacts ..).mpr ⟨.main, trivial, rfl⟩) with
    ⟨artifact, place, _, listed_eq, located, held, _⟩
  have same : Artifact.main.listed.Same artifact.listed := congrArg Path.components listed_eq
  obtain rfl := Artifact.eq_of_same_listed same
  exact ⟨exitCode_eq, place, located, held (located ▸ apart)⟩

end

/-- The main source is no longer there when the manifest was written to its path. -/
theorem main_written_over :
    let outcome := runProgram .ends ["1", "0", "1", "--manifest=main.c"] (.empty "work")
    outcome.report.exitCode = 0 ∧ ∃ (text : String) (manifest : Manifest),
      outcome.disk.readText ⟨"main.c"⟩ = .ok text ∧
      Json.parse Manifest.readJson text = .ok manifest ∧
      ⟨"main.c"⟩ ∈ manifest.artifacts ∧
      outcome.disk.locate (Path.join ⟨"."⟩ "main.c") = .ok ["work", "main.c"] ∧
      outcome.disk.find? ["work", "main.c"] = some (.file text.toUTF8) ∧
      text ≠ Artifact.main.text ⟨1, 0, 1⟩ := by
  intro outcome
  have parsed : CommandLine.parse ["1", "0", "1", "--manifest=main.c"] =
      .ok ⟨some 1, some 0, some 1, ".", none, [], false, some "main.c", false⟩ := by rfl
  have exitCode_eq : outcome.report.exitCode = 0 := by decide +kernel
  have joined : outcome.disk.locate (Path.join ⟨"."⟩ "main.c") = .ok ["work", "main.c"] := by
    decide +kernel
  have located : outcome.disk.locate ⟨"main.c"⟩ = .ok ["work", "main.c"] := by decide +kernel
  have possible : MayRun .ends ["1", "0", "1", "--manifest=main.c"] (.empty "work") outcome :=
    mayRun_runProgram _ _ _
  rcases possible.exists_written parsed rfl exitCode_eq with
    ⟨config, generated, left, spot, completes, _, written⟩
  have decoded := Manifest.parse_pretty (completes.isWords parsed)
  have spot_eq := written.located
  rw [located] at spot_eq
  obtain rfl := Except.ok.inj spot_eq
  refine ⟨exitCode_eq, _, _, written.readText, decoded,
    (Generator.mem_artifacts ..).mpr ⟨.main, trivial, rfl⟩, joined, written.gains.here, ?_⟩
  intro same
  rw [same] at decoded
  have refused : (Json.parse Manifest.readJson (Artifact.main.text ⟨1, 0, 1⟩)).isOk = false := by
    decide +kernel
  rw [decoded] at refused
  cases refused

end BenchTree

import BenchTree.Proofs.Parallel.Calls
import BenchTree.Proofs.Parallel.Recording
import BenchTree.Proofs.Parallel.Sequential
import BenchTree.Proofs.Path.Names
import BenchTree.Proofs.Run.Interruption

/-!
# What a manifest lists

An artifact is listed by the names that lead to it from the root of the tree. These names are what
is left of its path when the root is taken away, and joined to the root they are its path again,
however the root is spelled. So a manifest lists exactly what a run wrote. Which manifest that is
depends on the shape and the backends alone: not on the order in which the workers take their
turns, and not on the root.
-/

namespace BenchTree

namespace Artifact

variable (artifact : Artifact) (root : Path)

/-- The path of an artifact below the root of the tree. -/
def listed : Path := .ofNames artifact.names

theorem components_listed : artifact.listed.components = artifact.names.map .name :=
  Path.components_ofNames fun _ name_mem => artifact.isOrdinary_of_mem_names name_mem

theorem relativeTo?_path : (artifact.path root).relativeTo? root = some artifact.listed :=
  Path.relativeTo?_of_components (artifact.components_path root)

theorem join_listed : root.join artifact.listed.text = artifact.path root := by
  cases artifact with
  | main => rfl
  | rootDescription backend => rfl
  | header module file =>
      exact (Path.join_join root (Source.isOrdinary_moduleDirectory module) _).symm
  | source module file =>
      exact (Path.join_join root (Source.isOrdinary_moduleDirectory module) _).symm
  | moduleDescription module backend =>
      exact (Path.join_join root (Source.isOrdinary_moduleDirectory module) _).symm

theorem eq_of_same_listed {left right : Artifact} (same : left.listed.Same right.listed) :
    left = right := by
  apply names_injective
  rw [Path.Same, components_listed, components_listed] at same
  exact List.map_injective_iff.mpr (fun _ _ => Path.Component.name.inj) same

end Artifact

/-- A manifest is the record of a tree: it tells what was asked for, and lists what belongs to the
tree in the order of paths. -/
structure Manifest.Records (manifest : Manifest) (shape : Shape) (backends : List Backend) :
    Prop where
  shape_eq : manifest.shape = shape
  backends_eq : manifest.backends = Backend.distinct backends
  increasing : manifest.artifacts.Pairwise Path.Before
  ordinary : ∀ artifact ∈ manifest.artifacts, ∃ names : List String, names ≠ [] ∧
    (∀ name ∈ names, Path.IsOrdinary name) ∧ artifact.components = names.map .name
  counted : manifest.artifacts.length = 1 + shape.modules * (2 * shape.filesPerModule +
    (Backend.distinct backends).length) + (Backend.distinct backends).length
  /-- Where the number of artifacts fits into a word, so do the counts of the summary. -/
  summarized : manifest.artifacts.length ≤ Word.largest →
    manifest.artifacts.length = 1 + manifest.summary.sources + manifest.summary.descriptions

/-- A manifest lists the files that some calls write, by their paths below the root. -/
structure Manifest.Lists (manifest : Manifest) (root : Path) (calls : List Call) : Prop where
  bijective : Set.BijOn (fun artifact : Path => root.join artifact.text)
    {artifact | artifact ∈ manifest.artifacts} {path | ∃ text, Call.writeFile path text ∈ calls}
  below : ∀ path text, Call.writeFile path text ∈ calls →
    ∃ artifact ∈ manifest.artifacts, path.relativeTo? root = some artifact

namespace Generator

variable (shape : Shape) (backends : List Backend) (parallel : Bool)

/-- The manifest of every completed run that notes artifacts. -/
def completeManifest : Manifest where
  shape := shape
  backends := Backend.distinct backends
  summary := (create shape backends parallel).summary
    (Word.saturatingMul shape.modules (Tree.filesWritten shape))
  artifacts := ((Artifact.ofTree shape (Backend.distinct backends)).map
    Artifact.listed).mergeSort Path.precedes

theorem manifest_eq (root : Path) :
    (create shape backends parallel).manifest root
        (((create shape backends parallel).plan root).notes true .empty) =
      completeManifest shape backends parallel := by
  rw [manifest, completeManifest, sources_notes_plan, Plan.toList_artifacts_notes, Plan.noted,
    if_pos rfl, artifactList, plan, Tree.artifacts_plan]
  simp only [Notes.empty, List.nil_append, List.map_map]
  congr 3
  funext artifact
  simp [artifact.relativeTo?_path root]

theorem mem_artifacts {path : Path} :
    path ∈ (completeManifest shape backends parallel).artifacts ↔
      ∃ artifact : Artifact, artifact.Belongs shape backends ∧ artifact.listed = path := by
  simp [completeManifest, Artifact.mem_ofTree]

theorem pairwise_artifacts :
    (completeManifest shape backends parallel).artifacts.Pairwise Path.Before := by
  have distinct : ((Artifact.ofTree shape (Backend.distinct backends)).map
      Artifact.listed).Pairwise fun left right => ¬left.Same right := by
    rw [List.pairwise_map]
    exact (Artifact.nodup_ofTree (Backend.nodup_distinct backends) shape).imp
      fun different same => different (Artifact.eq_of_same_listed same)
  have sorted := Store.pairwise_precedes_mergeSort ((Artifact.ofTree shape
    (Backend.distinct backends)).map Artifact.listed)
  have apart := (List.mergeSort_perm _ Path.precedes).symm.pairwise distinct
    fun different same => different same.symm
  -- Sorted paths may still be the same place; those of different artifacts never are.
  exact (sorted.and apart).imp fun both => (Path.precedes_iff.mp both.1).resolve_right both.2

theorem length_artifacts :
    (completeManifest shape backends parallel).artifacts.length = 1 + shape.modules *
      (2 * shape.filesPerModule + (Backend.distinct backends).length)
        + (Backend.distinct backends).length := by
  rw [completeManifest, List.length_mergeSort, List.length_map, Artifact.length_ofTree]

/-- The counts of a summary add up to the number of artifacts where that fits into a word. -/
theorem eq_add_summary {shape : Shape} {backends : List Backend} {parallel : Bool}
    (fits : 1 + shape.modules * (2 * shape.filesPerModule + (Backend.distinct backends).length)
      + (Backend.distinct backends).length ≤ Word.largest) :
    1 + shape.modules * (2 * shape.filesPerModule + (Backend.distinct backends).length)
        + (Backend.distinct backends).length =
      1 + (completeManifest shape backends parallel).summary.sources
        + (completeManifest shape backends parallel).summary.descriptions := by
  have split : 1 + shape.modules * (2 * shape.filesPerModule + (Backend.distinct backends).length)
        + (Backend.distinct backends).length =
      1 + shape.modules * (2 * shape.filesPerModule)
        + (Backend.distinct backends).length * (shape.modules + 1) := by
    ring
  rw [split] at fits ⊢
  have sources : (completeManifest shape backends parallel).summary.sources =
      shape.modules * (2 * shape.filesPerModule) := by
    have bound : shape.modules * (2 * shape.filesPerModule) ≤ Word.largest := by omega
    exact min_eq_left bound
  have descriptions : (completeManifest shape backends parallel).summary.descriptions =
      (Backend.distinct backends).length * (shape.modules + 1) := by
    have bound : (Backend.distinct backends).length * (shape.modules + 1) ≤ Word.largest := by
      omega
    rcases Nat.eq_zero_or_pos (Backend.distinct backends).length with none | some
    · simp [completeManifest, summary, create, none, Word.saturatingMul, Word.saturate]
    · have modules_fit : shape.modules + 1 ≤ Word.largest :=
        (Nat.le_mul_of_pos_left _ some).trans bound
      simp only [completeManifest, summary, create, Word.saturatingMul, Word.saturatingAdd,
        Word.saturate, min_eq_left modules_fit, min_eq_left bound]
  rw [sources, descriptions]

theorem records : (completeManifest shape backends parallel).Records shape backends := by
  refine ⟨rfl, rfl, pairwise_artifacts .., ?_, length_artifacts .., ?_⟩
  · intro path path_mem
    rcases (mem_artifacts ..).mp path_mem with ⟨artifact, _, rfl⟩
    refine ⟨artifact.names, ?_, fun _ name_mem => artifact.isOrdinary_of_mem_names name_mem,
      artifact.components_listed⟩
    cases artifact <;> simp [Artifact.names]
  · intro fits
    rw [length_artifacts] at fits ⊢
    exact eq_add_summary fits

theorem lists (root : Path) {calls : List Call}
    (perm : calls.Perm ((create shape backends parallel).plan root).calls) :
    (completeManifest shape backends parallel).Lists root calls := by
  have written : ∀ {path text}, Call.writeFile path text ∈ calls ↔ ∃ artifact : Artifact,
      artifact.Belongs shape backends ∧ path = artifact.path root ∧ text = artifact.text shape := by
    intro path text
    rw [perm.mem_iff, plan, Tree.writeFile_mem_calls_plan]
    simp [create]
  constructor
  · refine ⟨?_, ?_, ?_⟩
    · intro path path_mem
      rcases (mem_artifacts ..).mp path_mem with ⟨artifact, belongs, rfl⟩
      exact ⟨_, written.mpr ⟨artifact, belongs, artifact.join_listed root, rfl⟩⟩
    · intro left left_mem right right_mem same
      rcases (mem_artifacts ..).mp left_mem with ⟨first, _, rfl⟩
      rcases (mem_artifacts ..).mp right_mem with ⟨second, _, rfl⟩
      simp only [Artifact.join_listed] at same
      rw [Artifact.eq_of_same_path (congrArg Path.components same)]
    · rintro path ⟨text, path_mem⟩
      rcases written.mp path_mem with ⟨artifact, belongs, rfl, _⟩
      exact ⟨artifact.listed, (mem_artifacts ..).mpr ⟨artifact, belongs, rfl⟩,
        artifact.join_listed root⟩
  · intro path text path_mem
    rcases written.mp path_mem with ⟨artifact, belongs, rfl, _⟩
    exact ⟨artifact.listed, (mem_artifacts ..).mpr ⟨artifact, belongs, rfl⟩,
      artifact.relativeTo?_path root⟩

end Generator

/-- A sink that refuses nothing. -/
def Sink.Accepts {State : Type} (sink : Sink State) : Prop :=
  ∀ call state, (sink.perform call state).1 = .ok ()

theorem Sink.Replays.result_eq_ok_of_accepts {State : Type} {sink : Sink State}
    (accepts : sink.Accepts) {initial final : State} {events : List Event}
    (replays : sink.Replays initial events final) :
    ∀ event ∈ events, event.result = .ok () := by
  induction replays with
  | nil => simp
  | snoc _ answer ih =>
      intro event event_mem
      rcases List.mem_append.mp event_mem with event_mem | event_mem
      · exact ih event event_mem
      · rw [List.mem_singleton.mp event_mem, ← accepts, answer]

namespace Job

variable {State : Type} {job : Job State} {situation : Situation State}

theorem Ends.eq_ok_of_accepts (accepts : job.sink.Accepts) {initial : State}
    (reaches : job.Reaches initial situation) {ending : Except IoError Unit}
    (ends : job.Ends situation ending) : ending = .ok () :=
  (ends.ok_iff reaches.valid).mpr (reaches.replays.result_eq_ok_of_accepts accepts)

end Job

section

variable {shape : Shape} {backends : List Backend} {parallel : Bool} {root : Path}
  {State : Type} {sink : Sink State} {initial : State}

open Generator (create completeManifest)

/-- A run that notes artifacts and is completed ends with the one manifest. -/
theorem Job.Reaches.conclude_eq {situation : Situation State}
    (reaches : Job.Reaches ⟨create shape backends parallel, sink, root, true⟩ initial situation)
    (ends : Job.Ends ⟨create shape backends parallel, sink, root, true⟩ situation (.ok ())) :
    (create shape backends parallel).conclude root (.ok ())
        (Job.notes ⟨create shape backends parallel, sink, root, true⟩ situation) =
      .ok (completeManifest shape backends parallel) := by
  rw [Generator.conclude, reaches.valid.notes_eq ends.isFinished]
  exact congrArg _ (Generator.manifest_eq shape backends parallel root)

/-- A completed run counts what the one manifest tells, whether it notes artifacts or not. -/
theorem Job.Reaches.summary_eq {recording : Bool} {situation : Situation State}
    (reaches : Job.Reaches ⟨create shape backends parallel, sink, root, recording⟩ initial
      situation)
    (ends : Job.Ends ⟨create shape backends parallel, sink, root, recording⟩ situation (.ok ())) :
    ((create shape backends parallel).manifest root (Job.notes
      ⟨create shape backends parallel, sink, root, recording⟩ situation)).summary =
        (completeManifest shape backends parallel).summary := by
  rw [reaches.valid.notes_eq ends.isFinished]
  exact Generator.summary_manifest (create shape backends parallel) root recording

theorem Generator.mayEnd_ok_iff (valid : shape.validate = .ok ()) {recording : Bool}
    {result : Manifest} {final : State} :
    (create shape backends parallel).MayEnd sink root recording initial (.ok result) final ↔
      ∃ situation,
        Job.Reaches ⟨create shape backends parallel, sink, root, recording⟩ initial situation ∧
        Job.Ends ⟨create shape backends parallel, sink, root, recording⟩ situation (.ok ()) ∧
        .ok result = (create shape backends parallel).conclude root (.ok ())
          (Job.notes ⟨create shape backends parallel, sink, root, recording⟩ situation) ∧
        final = situation.state := by
  have create_valid : (create shape backends parallel).shape.validate = .ok () := valid
  simp only [MayEnd, create_valid]
  constructor
  · rintro ⟨situation, ending, reaches, ends, result_eq, rfl⟩
    cases ending with
    | error problem => cases result_eq
    | ok _ => exact ⟨situation, reaches, ends, result_eq, rfl⟩
  · rintro ⟨situation, reaches, ends, result_eq, rfl⟩
    exact ⟨situation, _, reaches, ends, result_eq, rfl⟩

/-- With and without noting artifacts, completed runs leave the sink in the same states. -/
theorem Generator.mayEnd_recording_iff (valid : shape.validate = .ok ()) {final : State} :
    (create shape backends parallel).MayEnd sink root true initial
        (.ok (completeManifest shape backends parallel)) final ↔
      ∃ quiet, (create shape backends parallel).MayEnd sink root false initial (.ok quiet) final ∧
        quiet.summary = (completeManifest shape backends parallel).summary := by
  constructor
  · intro mayEnd
    rcases (mayEnd_ok_iff valid).mp mayEnd with ⟨situation, reaches, ends, _, rfl⟩
    rcases reaches.exists_alike false with ⟨other, other_reaches, alike⟩
    have other_ends := ends.alike false alike
    exact ⟨_, (mayEnd_ok_iff valid).mpr ⟨other, other_reaches, other_ends, rfl, alike.state⟩,
      other_reaches.summary_eq other_ends⟩
  · rintro ⟨quiet, mayEnd, _⟩
    rcases (mayEnd_ok_iff valid).mp mayEnd with ⟨situation, reaches, ends, _, rfl⟩
    rcases reaches.exists_alike true with ⟨other, other_reaches, alike⟩
    have other_ends := ends.alike true alike
    exact (mayEnd_ok_iff valid).mpr ⟨other, other_reaches, other_ends,
      (other_reaches.conclude_eq other_ends).symm, alike.state⟩

/-- On a sink that refuses nothing every run is completed. -/
theorem Generator.MayEnd.exists_eq_ok (accepts : sink.Accepts) (valid : shape.validate = .ok ())
    {recording : Bool} {result : Except GenerateError Manifest} {final : State}
    (mayEnd : (create shape backends parallel).MayEnd sink root recording initial result final) :
    ∃ manifest, result = .ok manifest ∧
      manifest.summary = (completeManifest shape backends parallel).summary ∧
      (recording = true → manifest = completeManifest shape backends parallel) := by
  have create_valid : (create shape backends parallel).shape.validate = .ok () := valid
  simp only [MayEnd, create_valid] at mayEnd
  rcases mayEnd with ⟨situation, ending, reaches, ends, rfl, rfl⟩
  obtain rfl := ends.eq_ok_of_accepts accepts reaches
  refine ⟨_, rfl, reaches.summary_eq ends, ?_⟩
  rintro rfl
  exact Except.ok.inj (reaches.conclude_eq ends)

end

/-- However the root is spelled and in whatever order the workers take their turns, a completed run
ends with one and the same manifest, which lists exactly what was written. With and without it, a
run counts the same and leaves the same behind. -/
theorem manifest_lists_written (shape : Shape) (backends : List Backend) (parallel : Bool)
    (root : Path) (valid : shape.validate = .ok ()) :
    let generator := Generator.create shape backends parallel
    ∃ manifest : Manifest, manifest.Records shape backends ∧
      ∀ {State : Type} (sink : Sink State) (initial : State),
        (∀ recording situation,
          let job : Job State := ⟨generator, sink, root, recording⟩
          job.Reaches initial situation → job.Ends situation (.ok ()) →
          ((recording = true →
              generator.conclude root (.ok ()) (job.notes situation) = .ok manifest) ∧
            (generator.conclude root (.ok ()) (job.notes situation)).map Manifest.summary =
              .ok manifest.summary ∧
            manifest.Lists root (situation.events.map Event.call))) ∧
        (∀ final, generator.MayEnd sink root true initial (.ok manifest) final ↔
          ∃ quiet, generator.MayEnd sink root false initial (.ok quiet) final ∧
            quiet.summary = manifest.summary) ∧
        (sink.Accepts →
          let own := generator.generateWithManifest sink root initial
          own.1 = .ok manifest ∧ generator.MayEnd sink root true initial own.1 own.2 ∧
          generator.generate sink root initial = (.ok manifest.summary, own.2) ∧
          ∀ recording situation ending,
            let job : Job State := ⟨generator, sink, root, recording⟩
            job.Reaches initial situation → job.Ends situation ending → ending = .ok ()) := by
  intro generator
  refine ⟨Generator.completeManifest shape backends parallel,
    Generator.records shape backends parallel, ?_⟩
  intro State sink initial
  refine ⟨?_, fun final => Generator.mayEnd_recording_iff valid, ?_⟩
  · intro recording situation job reaches ends
    refine ⟨?_, congrArg Except.ok (reaches.summary_eq ends), Generator.lists shape backends
      parallel root (reaches.valid.calls_perm ends.isFinished)⟩
    rintro rfl
    exact reaches.conclude_eq ends
  · intro accepts own
    have own_ends := generator.mayEnd_run sink root true initial
    have quiet_ends := generator.mayEnd_run sink root false initial
    rcases own_ends.exists_eq_ok accepts valid with ⟨manifest, own_eq, _, complete⟩
    rcases quiet_ends.exists_eq_ok accepts valid with ⟨quiet, quiet_eq, summary_eq, _⟩
    refine ⟨own_eq.trans (congrArg _ (complete rfl)), own_ends, ?_, ?_⟩
    · apply Prod.ext
      · simp only [Generator.generate, quiet_eq, Except.map, summary_eq]
      · exact (generator.state_run_recording sink root true initial).symm
    · intro recording situation ending job reaches ends
      exact ends.eq_ok_of_accepts accepts reaches

theorem Store.sink_accepts : Store.sink.Accepts := by
  intro call store
  rw [Store.perform_sink]

theorem manifest_lists_written_repeated_slashes :
    Shape.validate ⟨2, 3, 2⟩ = .ok () ∧ ∃ manifest : Manifest,
      ((Generator.create ⟨2, 3, 2⟩ [.meique, .cmake, .meique] true).generateWithManifest
        Store.sink ⟨".//a/../b//"⟩ .empty).1 = .ok manifest ∧
      manifest.backends = [.meique, .cmake] ∧ manifest.artifacts.length = 15 := by
  have valid : Shape.validate ⟨2, 3, 2⟩ = .ok () := rfl
  rcases manifest_lists_written ⟨2, 3, 2⟩ [.meique, .cmake, .meique] true ⟨".//a/../b//"⟩ valid with
    ⟨manifest, records, runs⟩
  rcases runs Store.sink .empty with ⟨_, _, own⟩
  exact ⟨valid, manifest, (own Store.sink_accepts).1, records.backends_eq, records.counted⟩

end BenchTree

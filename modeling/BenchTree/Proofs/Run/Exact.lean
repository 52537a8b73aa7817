import BenchTree.Proofs.Parallel.Sequential
import BenchTree.Proofs.Parallel.Termination

/-!
# What a run leaves in a store

A run on a store always succeeds, whatever the store held before and in whatever order the workers
take their turns. Afterwards every artifact of the tree is there with its text, every other file is
as it was, and the directories gained are the root and those of the modules. Nothing is written
twice, since different artifacts lie at different places. So on an empty store the number of files
is the number of artifacts.
-/

namespace BenchTree

/-- A store holds the tree of a shape on top of what another store held. -/
structure Store.Holds (final initial : Store) (root : Path) (shape : Shape)
    (backends : List Backend) : Prop where
  /-- Every artifact of the tree is there with its text. -/
  written : ∀ artifact : Artifact, artifact.Belongs shape backends →
    final.get? (artifact.path root) = some (artifact.text shape)
  /-- At all other places there is what was there before. -/
  kept : ∀ place : Path, (∀ artifact : Artifact, artifact.Belongs shape backends →
    ¬(artifact.path root).Same place) → final.get? place = initial.get? place
  /-- The root and the directories of the modules were added to the directories. -/
  directories : ∀ place : Path, (∃ directory ∈ final.directoryList, directory.Same place) ↔
    (∃ directory ∈ initial.directoryList, directory.Same place) ∨ root.Same place ∨
      ∃ module < shape.modules, (Tree.modulePath root module).Same place

namespace Store

variable {root : Path} {shape : Shape} {backends : List Backend} {calls : List Call}

/-- The calls of a tree give an artifact its text; one that was there keeps its spelling. -/
theorem files_after_artifact (store : Store) (distinct : backends.Nodup)
    (perm : calls.Perm (Tree.plan root shape backends).calls) {artifact : Artifact}
    (belongs : artifact.Belongs shape backends) :
    (store.after calls).files[(artifact.path root).components]? =
      some (store.spelling (artifact.path root), artifact.text shape) := by
  apply store.files_after_of_mem (Tree.pairwise_apart_of_perm distinct perm)
  rw [perm.mem_iff, Tree.writeFile_mem_calls_plan]
  exact ⟨artifact, belongs, rfl, rfl⟩

theorem files_after_elsewhere (store : Store)
    (perm : calls.Perm (Tree.plan root shape backends).calls) {place : List Path.Component}
    (elsewhere : ∀ artifact : Artifact, artifact.Belongs shape backends →
      (artifact.path root).components ≠ place) :
    (store.after calls).files[place]? = store.files[place]? := by
  apply store.files_after_of_forall_ne
  intro path text written
  rw [perm.mem_iff, Tree.writeFile_mem_calls_plan] at written
  rcases written with ⟨artifact, belongs, rfl, _⟩
  exact elsewhere artifact belongs

theorem holds_after (store : Store) (distinct : backends.Nodup)
    (perm : calls.Perm (Tree.plan root shape backends).calls) :
    (store.after calls).Holds store root shape backends := by
  constructor
  · intro artifact belongs
    rw [get?, store.files_after_artifact distinct perm belongs]
    rfl
  · intro place unrelated
    rw [get?, get?, store.files_after_elsewhere perm unrelated]
  · intro place
    simp only [exists_same_directoryList_after, perm.mem_iff, Tree.createDirectory_mem_calls_plan,
      Tree.directories, List.mem_cons, List.mem_map, List.mem_range, or_and_right, exists_or,
      exists_eq_left, exists_exists_and_eq_and]

theorem Holds.of_distinct {final initial : Store}
    (holds : final.Holds initial root shape (Backend.distinct backends)) :
    final.Holds initial root shape backends :=
  ⟨by simpa using holds.written, by simpa using holds.kept, holds.directories⟩

/-- On top of nothing, there are as many files as artifacts. -/
theorem Holds.length_fileList {final : Store} (holds : final.Holds empty root shape backends)
    (distinct : backends.Nodup) :
    final.fileList.length =
      1 + shape.modules * (2 * shape.filesPerModule + backends.length) + backends.length := by
  have files_nodup : (final.fileList.map fun file => file.1.components).Nodup := by
    rw [List.Nodup, List.pairwise_map]
    exact (pairwise_fileList final).imp fun before => before.not_same
  have artifacts_nodup : ((Artifact.ofTree shape backends).map fun artifact =>
      (artifact.path root).components).Nodup :=
    (Artifact.nodup_ofTree distinct shape).map fun _ _ same => Artifact.eq_of_same_path same
  have places : (final.fileList.map fun file => file.1.components).Perm
      ((Artifact.ofTree shape backends).map fun artifact =>
        (artifact.path root).components) := by
    rw [List.perm_ext_iff_of_nodup files_nodup artifacts_nodup]
    intro place
    simp only [List.mem_map, Artifact.mem_ofTree]
    constructor
    · rintro ⟨⟨path, text⟩, file_mem, rfl⟩
      by_contra unrelated
      push Not at unrelated
      have found : final.get? path = some text := get?_eq_some_iff.mpr ⟨path, file_mem, rfl⟩
      rw [holds.kept path unrelated, get?_empty] at found
      cases found
    · rintro ⟨artifact, belongs, rfl⟩
      rcases get?_eq_some_iff.mp (holds.written artifact belongs) with ⟨path, file_mem, same⟩
      exact ⟨_, file_mem, same⟩
  have lengths := places.length_eq
  rwa [List.length_map, List.length_map, Artifact.length_ofTree] at lengths

end Store

/-- In whatever order the workers take their turns, generating into a store succeeds and leaves
exactly the tree on top of what was there before. -/
theorem generate_exact (shape : Shape) (backends : List Backend) (parallel : Bool) (root : Path)
    (store : Store) (valid : shape.validate = .ok ()) :
    let generator := Generator.create shape backends parallel
    ((∃ summary, (generator.generate Store.sink root store).1 = .ok summary) ∧
      (generator.generate Store.sink root store).2.Holds store root shape backends) ∧
    ((∃ manifest, (generator.generateWithManifest Store.sink root store).1 = .ok manifest) ∧
      (generator.generateWithManifest Store.sink root store).2.Holds store root shape backends) ∧
    (∀ left right : Artifact, (left.path root).Same (right.path root) → left = right) ∧
    ∀ recording,
      generator.MayEnd Store.sink root recording store
        (generator.run Store.sink root recording store).1
        (generator.run Store.sink root recording store).2 ∧
      generator.AlwaysEnds Store.sink root recording store ∧
      ∀ result final, generator.MayEnd Store.sink root recording store result final →
        (∃ manifest, result = .ok manifest) ∧ final.Holds store root shape backends ∧
        (store = .empty → final.fileList.length = 1 + shape.modules *
          (2 * shape.filesPerModule + (Backend.distinct backends).length) +
          (Backend.distinct backends).length) := by
  intro generator
  have ends : ∀ recording result final,
      generator.MayEnd Store.sink root recording store result final →
      (∃ manifest, result = .ok manifest) ∧ final.Holds store root shape backends ∧
        (store = .empty → final.fileList.length = 1 + shape.modules *
          (2 * shape.filesPerModule + (Backend.distinct backends).length) +
          (Backend.distinct backends).length) := by
    intro recording result final mayEnd
    rcases mayEnd.exists_perm valid with ⟨calls, perm, rfl, succeeded⟩
    have holds := store.holds_after (Backend.nodup_distinct backends) perm
    refine ⟨⟨_, succeeded⟩, holds.of_distinct, ?_⟩
    rintro rfl
    exact holds.length_fileList (Backend.nodup_distinct backends)
  have runs : ∀ recording,
      (∃ manifest, (generator.run Store.sink root recording store).1 = .ok manifest) ∧
        (generator.run Store.sink root recording store).2.Holds store root shape backends := by
    intro recording
    rcases ends recording _ _ (generator.mayEnd_run Store.sink root recording store) with
      ⟨succeeded, holds, _⟩
    exact ⟨succeeded, holds⟩
  refine ⟨?_, runs true, fun _ _ same => Artifact.eq_of_same_path same, ?_⟩
  · rcases runs false with ⟨⟨manifest, succeeded⟩, holds⟩
    exact ⟨⟨manifest.summary, by simp [Generator.generate, succeeded, Except.map]⟩, holds⟩
  · intro recording
    exact ⟨generator.mayEnd_run Store.sink root recording store,
      generator.alwaysEnds Store.sink root recording store, ends recording⟩

theorem generate_exact_repeated_backend :
    Shape.validate ⟨2, 1, 2⟩ = .ok () ∧
      ((Generator.create ⟨2, 1, 2⟩ [.cmake, .meique, .cmake] true).run Store.sink ⟨"out/"⟩ false
        .empty).2.fileList.length = 15 := by
  have valid : Shape.validate ⟨2, 1, 2⟩ = .ok () := rfl
  rcases generate_exact ⟨2, 1, 2⟩ [.cmake, .meique, .cmake] true ⟨"out/"⟩ .empty valid with
    ⟨_, _, _, runs⟩
  rcases runs false with ⟨run_ends, _, ends⟩
  rcases ends _ _ run_ends with ⟨_, _, length⟩
  exact ⟨valid, length rfl⟩

end BenchTree

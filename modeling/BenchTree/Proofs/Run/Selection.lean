import BenchTree.Proofs.Run.Confluence
import BenchTree.Proofs.Run.Exact
import BenchTree.Proofs.Run.Manifest
import BenchTree.Proofs.Run.Succession

/-!
# Which backends are selected

Of the list of backends that a generator is given only the members count. Their order and
repetitions leave no trace in the tree, nor in the counts of a run or in the artifacts that its
manifest lists; the manifest alone keeps the order, with each backend where it stood first. Lists
with different members give trees that differ in nothing but the descriptions for the backends that
one of the lists has and the other has not.
-/

namespace BenchTree

namespace Backend

/-- A list keeps of another one the first occurrence of each member, in their order. -/
structure KeepsFirst (given kept : List Backend) : Prop where
  members : ∀ backend, backend ∈ kept ↔ backend ∈ given
  unrepeated : kept.Nodup
  ordered : kept.Pairwise fun earlier later => given.idxOf earlier < given.idxOf later

theorem distinct_concat (backends : List Backend) (last : Backend) :
    distinct (backends ++ [last]) =
      if last ∈ backends then distinct backends else distinct backends ++ [last] := by
  have added : distinct (backends ++ [last]) =
      if last ∈ distinct backends then distinct backends else distinct backends ++ [last] := by
    rw [distinct, List.foldl_concat]
    rfl
  simpa using added

theorem ordered_distinct (backends : List Backend) :
    (distinct backends).Pairwise fun earlier later =>
      backends.idxOf earlier < backends.idxOf later := by
  induction backends using List.reverseRecOn with
  | nil => exact .nil
  | append_singleton backends last ih =>
      have index_eq : ∀ backend ∈ distinct backends,
          (backends ++ [last]).idxOf backend = backends.idxOf backend := fun backend kept =>
        List.idxOf_append_of_mem (mem_distinct.mp kept)
      have kept_ordered : (distinct backends).Pairwise fun earlier later =>
          (backends ++ [last]).idxOf earlier < (backends ++ [last]).idxOf later := by
        apply ih.imp_of_mem
        intro earlier later earlier_mem later_mem before
        rwa [index_eq earlier earlier_mem, index_eq later later_mem]
      rw [distinct_concat]
      by_cases present : last ∈ backends
      · rwa [if_pos present]
      · rw [if_neg present, List.pairwise_append]
        refine ⟨kept_ordered, List.pairwise_singleton .., ?_⟩
        intro earlier earlier_mem later later_mem
        obtain rfl := List.mem_singleton.mp later_mem
        rw [index_eq earlier earlier_mem, List.idxOf_append_of_notMem present]
        have inside := List.idxOf_lt_length_of_mem (mem_distinct.mp earlier_mem)
        omega

theorem keepsFirst_distinct (backends : List Backend) : KeepsFirst backends (distinct backends) :=
  ⟨fun _ => mem_distinct, nodup_distinct backends, ordered_distinct backends⟩

theorem distinct_perm {left right : List Backend}
    (same : ∀ backend, backend ∈ left ↔ backend ∈ right) :
    (distinct left).Perm (distinct right) := by
  rw [List.perm_ext_iff_of_nodup (nodup_distinct left) (nodup_distinct right)]
  simpa using same

end Backend

/-! ## Manifests -/

/-- Manifests that differ in the order of their backends at most. -/
structure Manifest.AgreesUpToOrder (left right : Manifest) : Prop where
  shape : left.shape = right.shape
  backends : left.backends.Perm right.backends
  summary : left.summary = right.summary
  artifacts : left.artifacts = right.artifacts

/-- Results of one kind: the same failure, or manifests that agree. -/
inductive Generator.SameKind :
    Except GenerateError Manifest → Except GenerateError Manifest → Prop where
  | error (problem : GenerateError) : SameKind (.error problem) (.error problem)
  | ok {left right : Manifest} (agrees : left.AgreesUpToOrder right) :
      SameKind (.ok left) (.ok right)

namespace Generator

variable {shape : Shape} {left right : List Backend} {leftParallel rightParallel : Bool}

section

variable (same : ∀ backend, backend ∈ left ↔ backend ∈ right)

include same

theorem artifacts_eq_of_same_members :
    (completeManifest shape left leftParallel).artifacts =
      (completeManifest shape right rightParallel).artifacts := by
  have belongs_iff : ∀ artifact : Artifact,
      artifact.Belongs shape left ↔ artifact.Belongs shape right := by
    intro artifact
    cases artifact <;> simp [Artifact.Belongs, same]
  apply Path.eq_of_pairwise_before (pairwise_artifacts ..) (pairwise_artifacts ..)
  intro path
  simp only [mem_artifacts, belongs_iff]

theorem summary_eq_of_same_members (sources : Nat) :
    (create shape left leftParallel).summary sources =
      (create shape right rightParallel).summary sources := by
  simp only [summary, create, (Backend.distinct_perm same).length_eq]

/-- Whatever was noted, the manifests of completed runs agree. -/
theorem manifest_agreesUpToOrder (root : Path) (recording : Bool) :
    ((create shape left leftParallel).manifest root
      (((create shape left leftParallel).plan root).notes recording .empty)).AgreesUpToOrder
      ((create shape right rightParallel).manifest root
        (((create shape right rightParallel).plan root).notes recording .empty)) where
  shape := rfl
  backends := Backend.distinct_perm same
  summary := by
    rw [summary_manifest, summary_manifest]
    exact summary_eq_of_same_members same _
  artifacts := by
    cases recording with
    | false => simp [manifest, Plan.toList_artifacts_notes, Plan.noted]
    | true =>
        rw [manifest_eq, manifest_eq]
        exact artifacts_eq_of_same_members same

end

theorem SameKind.summary_eq {left right : Except GenerateError Manifest}
    (same : SameKind left right) : left.map Manifest.summary = right.map Manifest.summary := by
  cases same with
  | error problem => rfl
  | ok agrees => exact congrArg Except.ok agrees.summary

end Generator

/-! ## Trees -/

/-- In a tree of so many modules a description for the backend lies at the place. -/
def Tree.DescribedAt (root : Path) (modules : Nat) (backend : Backend) (place : Path) : Prop :=
  (root.join backend.fileName).Same place ∨
    ∃ module < modules, ((modulePath root module).join backend.fileName).Same place

/-- Whether a description belongs to a place is found out module by module. -/
instance (root : Path) (modules : Nat) (backend : Backend) (place : Path) :
    Decidable (Tree.DescribedAt root modules backend place) :=
  inferInstanceAs (Decidable (_ = _ ∨ ∃ module < modules, _ = _))

/-- A description lies at the place for a backend that one of two lists has and the other lacks. -/
def Tree.DescribedOnce (root : Path) (modules : Nat) (left right : List Backend) (place : Path) :
    Prop :=
  ∃ backend, ¬(backend ∈ left ↔ backend ∈ right) ∧ DescribedAt root modules backend place

theorem Tree.describedOnce_distinct (root : Path) (modules : Nat) (left right : List Backend) :
    DescribedOnce root modules (Backend.distinct left) (Backend.distinct right) =
      DescribedOnce root modules left right := by
  funext place
  simp only [DescribedOnce, Backend.mem_distinct]

/-- Two stores show the same, except for the files at some places. -/
structure Store.AgreesBut (left right : Store) (excepted : Path → Prop) : Prop where
  texts : ∀ place, ¬excepted place → left.get? place = right.get? place
  files : ∀ file : Path × String, ¬excepted file.1 →
    (file ∈ left.fileList ↔ file ∈ right.fileList)
  directories : left.directoryList = right.directoryList

theorem Store.AgreesBut.agrees {left right : Store} {excepted : Path → Prop}
    (agrees : left.AgreesBut right excepted) (nowhere : ∀ place, ¬excepted place) :
    left.Agrees right :=
  ⟨fileList_eq_iff.mpr fun file => agrees.files file (nowhere file.1), agrees.directories⟩

theorem Tree.not_describedOnce_of_same {root : Path} {modules : Nat} {left right : List Backend}
    (same : ∀ backend, backend ∈ left ↔ backend ∈ right) (place : Path) :
    ¬DescribedOnce root modules left right place := by
  rintro ⟨backend, different, _⟩
  exact different (same backend)

/-- An artifact of one tree belongs to the other one as well, unless it is a description for a
backend of one of them alone. -/
theorem Artifact.belongs_iff_of_not_describedOnce {root place : Path} {shape : Shape}
    {left right : List Backend} {artifact : Artifact} (same : (artifact.path root).Same place)
    (elsewhere : ¬Tree.DescribedOnce root shape.modules left right place) :
    artifact.Belongs shape left ↔ artifact.Belongs shape right := by
  have selected_iff : ∀ backend, Tree.DescribedAt root shape.modules backend place →
      (backend ∈ left ↔ backend ∈ right) := by
    intro backend described
    by_contra different
    exact elsewhere ⟨backend, different, described⟩
  cases artifact with
  | main => rfl
  | header module file => rfl
  | source module file => rfl
  | moduleDescription module backend =>
      apply and_congr_right
      intro module_lt
      exact selected_iff backend (.inr ⟨module, module_lt, same⟩)
  | rootDescription backend => exact selected_iff backend (.inl same)

namespace Store

variable {root : Path} {shape : Shape} {left right : List Backend}
  {leftCalls rightCalls : List Call}

section

variable (store : Store) (left_distinct : left.Nodup) (right_distinct : right.Nodup)
  (left_perm : leftCalls.Perm (Tree.plan root shape left).calls)
  (right_perm : rightCalls.Perm (Tree.plan root shape right).calls)

include left_distinct right_distinct left_perm right_perm

theorem files_after_eq_of_not_describedOnce {place : Path}
    (elsewhere : ¬Tree.DescribedOnce root shape.modules left right place) :
    (store.after leftCalls).files[place.components]? =
      (store.after rightCalls).files[place.components]? := by
  by_cases written : ∃ artifact : Artifact,
      artifact.Belongs shape left ∧ (artifact.path root).Same place
  · rcases written with ⟨artifact, belongs, same⟩
    have belongs_right := (Artifact.belongs_iff_of_not_describedOnce same elsewhere).mp belongs
    have place_eq : (artifact.path root).components = place.components := same
    rw [← place_eq, store.files_after_artifact left_distinct left_perm belongs,
      store.files_after_artifact right_distinct right_perm belongs_right]
  · push Not at written
    have written_right : ∀ artifact : Artifact, artifact.Belongs shape right →
        ¬(artifact.path root).Same place := by
      intro artifact belongs same
      exact written artifact
        ((Artifact.belongs_iff_of_not_describedOnce same elsewhere).mpr belongs) same
    rw [store.files_after_elsewhere left_perm written,
      store.files_after_elsewhere right_perm written_right]

/-- The calls of trees that differ in the selected backends make the same directories, and write
the same files, but for the descriptions. -/
theorem agreesBut_after : (store.after leftCalls).AgreesBut (store.after rightCalls)
    (Tree.DescribedOnce root shape.modules left right) where
  texts place elsewhere := by
    rw [get?, get?, store.files_after_eq_of_not_describedOnce left_distinct right_distinct left_perm
      right_perm elsewhere]
  files file elsewhere := by
    rw [mem_fileList, mem_fileList, store.files_after_eq_of_not_describedOnce left_distinct
      right_distinct left_perm right_perm elsewhere]
  directories := by
    have left_apart := Tree.pairwise_apart_of_perm left_distinct left_perm
    have right_apart := Tree.pairwise_apart_of_perm right_distinct right_perm
    apply store.directoryList_after_of_made_perm left_apart right_apart
    rw [List.perm_ext_iff_of_nodup]
    · intro directory
      simp only [Call.mem_filterMap_directory?, left_perm.mem_iff, right_perm.mem_iff,
        Tree.createDirectory_mem_calls_plan]
    · exact (pairwise_directories_of_apart left_apart).imp fun different same =>
        different (congrArg Path.components same)
    · exact (pairwise_directories_of_apart right_apart).imp fun different same =>
        different (congrArg Path.components same)

end

end Store

section

variable {shape : Shape} {left right : List Backend} {leftParallel rightParallel recording : Bool}
  {root : Path} {store leftFinal rightFinal : Store}
  {leftResult rightResult : Except GenerateError Manifest}
  (left_ends : (Generator.create shape left leftParallel).MayEnd Store.sink root recording store
    leftResult leftFinal)

include left_ends

theorem Generator.MayEnd.keepsFirst {manifest : Manifest} (completed : leftResult = .ok manifest) :
    Backend.KeepsFirst left manifest.backends := by
  subst completed
  rw [left_ends.exists_replays.2.1]
  exact Backend.keepsFirst_distinct left

variable (right_ends : (Generator.create shape right rightParallel).MayEnd Store.sink root recording
  store rightResult rightFinal)

include right_ends

theorem Generator.MayEnd.agreesBut :
    leftFinal.AgreesBut rightFinal (Tree.DescribedOnce root shape.modules left right) := by
  cases validation : shape.validate with
  | error problem =>
      rw [(left_ends.eq_of_invalid validation).2, (right_ends.eq_of_invalid validation).2]
      exact ⟨fun _ _ => rfl, fun _ _ => Iff.rfl, rfl⟩
  | ok _ =>
      rcases left_ends.exists_perm validation with ⟨leftCalls, left_perm, rfl, _⟩
      rcases right_ends.exists_perm validation with ⟨rightCalls, right_perm, rfl, _⟩
      rw [← Tree.describedOnce_distinct]
      exact store.agreesBut_after (Backend.nodup_distinct left) (Backend.nodup_distinct right)
        left_perm right_perm

theorem Generator.MayEnd.sameKind (same : ∀ backend, backend ∈ left ↔ backend ∈ right) :
    Generator.SameKind leftResult rightResult := by
  cases validation : shape.validate with
  | error problem =>
      rw [(left_ends.eq_of_invalid validation).1, (right_ends.eq_of_invalid validation).1]
      exact .error _
  | ok _ =>
      rcases left_ends.exists_perm validation with ⟨_, _, _, rfl⟩
      rcases right_ends.exists_perm validation with ⟨_, _, _, rfl⟩
      exact .ok (Generator.manifest_agreesUpToOrder same root recording)

end

/-- In whatever order the workers take their turns, runs for lists with the same members come to
the same, but for the order of the backends in the manifest; that is the order of their first
occurrences. Whatever the lists, the trees agree where no description lies for a backend of one of
them alone. -/
theorem backend_set_determines_tree (shape : Shape) (left right : List Backend)
    (leftParallel rightParallel : Bool) (root : Path) (store : Store) :
    let first := Generator.create shape left leftParallel
    let second := Generator.create shape right rightParallel
    ((∀ backend, backend ∈ left ↔ backend ∈ right) →
      ((first.generate Store.sink root store).1 = (second.generate Store.sink root store).1 ∧
        (first.generate Store.sink root store).2.Agrees
          (second.generate Store.sink root store).2) ∧
      Generator.SameKind (first.generateWithManifest Store.sink root store).1
          (second.generateWithManifest Store.sink root store).1 ∧
        (first.generateWithManifest Store.sink root store).2.Agrees
          (second.generateWithManifest Store.sink root store).2) ∧
    ∀ recording,
      (first.MayEnd Store.sink root recording store
          (first.run Store.sink root recording store).1
          (first.run Store.sink root recording store).2 ∧
        first.AlwaysEnds Store.sink root recording store) ∧
      ∀ firstResult firstFinal secondResult secondFinal,
        first.MayEnd Store.sink root recording store firstResult firstFinal →
        second.MayEnd Store.sink root recording store secondResult secondFinal →
        ((∀ backend, backend ∈ left ↔ backend ∈ right) →
          Generator.SameKind firstResult secondResult ∧ firstFinal.Agrees secondFinal) ∧
        (∀ manifest, firstResult = .ok manifest →
          Backend.KeepsFirst left manifest.backends) ∧
        firstFinal.AgreesBut secondFinal
          (Tree.DescribedOnce root shape.modules left right) := by
  intro first second
  have ends : ∀ recording firstResult firstFinal secondResult secondFinal,
      first.MayEnd Store.sink root recording store firstResult firstFinal →
      second.MayEnd Store.sink root recording store secondResult secondFinal →
      (∀ backend, backend ∈ left ↔ backend ∈ right) →
      Generator.SameKind firstResult secondResult ∧ firstFinal.Agrees secondFinal := by
    intro recording _ _ _ _ first_ends second_ends same
    exact ⟨first_ends.sameKind second_ends same,
      (first_ends.agreesBut second_ends).agrees (Tree.not_describedOnce_of_same same)⟩
  have own := fun recording => ends recording _ _ _ _
    (first.mayEnd_run Store.sink root recording store)
    (second.mayEnd_run Store.sink root recording store)
  refine ⟨fun same => ⟨⟨(own false same).1.summary_eq, (own false same).2⟩, own true same⟩, ?_⟩
  intro recording
  refine ⟨⟨first.mayEnd_run Store.sink root recording store,
    first.alwaysEnds Store.sink root recording store⟩, ?_⟩
  intro firstResult firstFinal secondResult secondFinal first_ends second_ends
  exact ⟨ends recording _ _ _ _ first_ends second_ends,
    fun _ completed => first_ends.keepsFirst completed, first_ends.agreesBut second_ends⟩

/-- A repeated backend and another order change nothing, and a backend less takes its descriptions
with it but leaves the main source as it was. -/
theorem backend_set_determines_tree_reordered :
    let shape : Shape := ⟨2, 1, 2⟩
    let root : Path := ⟨"./out"⟩
    let store := Store.empty.writeFile ⟨"./out//main.c"⟩ "old"
    let mixed := Generator.create shape [.meique, .cmake, .meique] true
    let plain := Generator.create shape [.cmake, .meique] false
    let single := Generator.create shape [.cmake] false
    (∀ backend, backend ∈ [Backend.meique, .cmake, .meique] ↔ backend ∈ [Backend.cmake, .meique]) ∧
      (mixed.generate Store.sink root store).1 = (plain.generate Store.sink root store).1 ∧
      (mixed.run Store.sink root true store).2.Agrees (plain.run Store.sink root true store).2 ∧
      ¬Tree.DescribedOnce root 2 [.meique, .cmake, .meique] [.cmake] ⟨"./out/main.c"⟩ ∧
      (mixed.run Store.sink root true store).2.get? ⟨"./out/main.c"⟩ =
        (single.run Store.sink root true store).2.get? ⟨"./out/main.c"⟩ := by
  intro shape root store mixed plain single
  have same : ∀ backend,
      backend ∈ [Backend.meique, .cmake, .meique] ↔ backend ∈ [Backend.cmake, .meique] := by
    intro backend
    cases backend <;> decide
  have elsewhere : ¬Tree.DescribedOnce root 2 [.meique, .cmake, .meique] [.cmake]
      ⟨"./out/main.c"⟩ := by
    rintro ⟨backend, _, described⟩
    revert described
    cases backend <;> decide +kernel
  rcases backend_set_determines_tree shape [.meique, .cmake, .meique] [.cmake, .meique] true false
    root store with ⟨alike, _⟩
  rcases backend_set_determines_tree shape [.meique, .cmake, .meique] [.cmake] true false root
    store with ⟨_, runs⟩
  rcases runs true with ⟨⟨mixed_ends, _⟩, compared⟩
  rcases compared _ _ _ _ mixed_ends (single.mayEnd_run Store.sink root true store) with
    ⟨_, _, agrees⟩
  rcases alike same with ⟨⟨counted, _⟩, _, shown⟩
  exact ⟨same, counted, shown, elsewhere, agrees.texts _ elsewhere⟩

end BenchTree

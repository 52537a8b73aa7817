import BenchTree.Proofs.Tree.Artifact

/-!
# The calls of a tree's plan

The plan of a tree has three parts: the opening makes the root and writes the main source, one part
for each module makes its directory and fills it, and the closing writes the descriptions of the
executable. This file gives the calls of each part as a list over artifacts. Up to order the calls
of the whole plan make each directory once and write each artifact once, so no two of them name
the same place in the same way.
-/

namespace BenchTree

namespace Artifact

/-- The artifacts of one module, in the order in which they are written. -/
def ofModule (shape : Shape) (backends : List Backend) (module : Nat) : List Artifact :=
  (List.range shape.filesPerModule).flatMap
      (fun file => [.header module file, .source module file])
    ++ backends.map (.moduleDescription module)

/-- The artifacts of a tree, in the order in which they are written. -/
def ofTree (shape : Shape) (backends : List Backend) : List Artifact :=
  .main :: (List.range shape.modules).flatMap (ofModule shape backends)
    ++ backends.map .rootDescription

theorem mem_ofModule {shape : Shape} {backends : List Backend} {module : Nat}
    {artifact : Artifact} :
    artifact ∈ ofModule shape backends module ↔
      (∃ file < shape.filesPerModule,
        artifact = .header module file ∨ artifact = .source module file) ∨
        ∃ backend ∈ backends, artifact = .moduleDescription module backend := by
  simp [ofModule, eq_comm]

theorem mem_ofTree {shape : Shape} {backends : List Backend} {artifact : Artifact} :
    artifact ∈ ofTree shape backends ↔ artifact.Belongs shape backends := by
  simp only [ofTree, List.cons_append, List.mem_cons, List.mem_append, List.mem_flatMap,
    List.mem_range, mem_ofModule, List.mem_map]
  cases artifact <;> simp [Belongs]

theorem nodup_ofModule {backends : List Backend} (distinct : backends.Nodup) (shape : Shape)
    (module : Nat) : (ofModule shape backends module).Nodup := by
  rw [ofModule, List.nodup_append]
  refine ⟨?_, ?_, ?_⟩
  · rw [List.nodup_flatMap]
    refine ⟨by simp, List.nodup_range.pairwise_of_forall_ne ?_⟩
    intro left _ right _ different
    simp [Function.onFun, List.disjoint_left, different]
  · exact distinct.map (fun _ _ same => by simpa using same)
  · intro pair pair_mem description description_mem
    simp only [List.mem_flatMap, List.mem_cons, List.not_mem_nil, or_false] at pair_mem
    rcases pair_mem with ⟨file, _, rfl | rfl⟩ <;>
      (rcases List.mem_map.mp description_mem with ⟨backend, _, rfl⟩; simp)

theorem nodup_ofTree {backends : List Backend} (distinct : backends.Nodup) (shape : Shape) :
    (ofTree shape backends).Nodup := by
  rw [ofTree, List.nodup_append]
  refine ⟨?_, ?_, ?_⟩
  · rw [List.nodup_cons, List.nodup_flatMap]
    refine ⟨by simp [mem_ofModule], fun module _ => nodup_ofModule distinct shape module,
      List.nodup_range.pairwise_of_forall_ne ?_⟩
    intro left _ right _ different artifact left_mem right_mem
    simp only [mem_ofModule] at left_mem right_mem
    rcases left_mem with ⟨file, _, rfl | rfl⟩ | ⟨backend, _, rfl⟩ <;>
      simp [different] at right_mem
  · exact distinct.map (fun _ _ same => by simpa using same)
  · intro artifact artifact_mem description description_mem
    rcases List.mem_map.mp description_mem with ⟨backend, _, rfl⟩
    rintro rfl
    simp [mem_ofModule] at artifact_mem

theorem length_ofTree (shape : Shape) (backends : List Backend) :
    (ofTree shape backends).length =
      1 + shape.modules * (2 * shape.filesPerModule + backends.length) + backends.length := by
  simp only [ofTree, ofModule, List.length_append, List.length_cons, List.length_flatMap,
    List.length_map, List.length_nil, List.map_const', List.sum_replicate, List.length_range,
    smul_eq_mul]
  ring

end Artifact

namespace Plan

/-- Plans for numbers in a row that count the same each. -/
theorem sum_counts_each {body : Nat → Plan} {total : Nat}
    (same : ∀ number, (body number).counts.sum = total) (start count : Nat) :
    (each body start count).counts.sum = count * total := by
  induction count generalizing start with
  | zero => exact (Nat.zero_mul total).symm
  | succ count ih =>
      rw [each, counts_append, List.sum_append, same, ih]
      ring

/-- Plans that count nothing add nothing to what is counted. -/
theorem sum_counts_forEach {Member : Type} {body : Member → Plan}
    (nothing : ∀ member, (body member).counts.sum = 0) (members : List Member) :
    (forEach body members).counts.sum = 0 := by
  induction members with
  | nil => rfl
  | cons first rest ih => rw [forEach, counts_append, List.sum_append, nothing, ih]

end Plan

namespace Tree

/-- Makes the root and writes the main source. -/
def openingPlan (root : Path) (modules : Nat) : Plan :=
  .step (.call (.createDirectory root)) fun _ => mainPlan root modules

theorem plan_eq_append (root : Path) (shape : Shape) (backends : List Backend) :
    plan root shape backends =
      (openingPlan root shape.modules).append fun _ =>
        (Plan.each (modulePlan root shape backends) 0 shape.modules).append fun _ =>
          rootDescriptionsPlan root shape.modules backends := rfl

/-- The directories of a tree: the root and one for each module. -/
def directories (root : Path) (modules : Nat) : List Path :=
  root :: (List.range modules).map (modulePath root)

theorem calls_openingPlan (root : Path) (shape : Shape) :
    (openingPlan root shape.modules).calls =
      [.createDirectory root, Artifact.main.call root shape] := rfl

theorem calls_filePlan (root : Path) (shape : Shape) (module file : Nat) :
    (filePlan (modulePath root module) module shape file).calls =
      [.header module file, .source module file].map (Artifact.call root shape) := rfl

theorem calls_modulePlan (root : Path) (shape : Shape) (backends : List Backend) (module : Nat) :
    (modulePlan root shape backends module).calls =
      .createDirectory (modulePath root module) ::
        (Artifact.ofModule shape backends module).map (Artifact.call root shape) := by
  simp only [modulePlan, Plan.calls_call, Plan.calls_append, filesPlan, Plan.calls_each,
    Plan.calls_forEach, calls_filePlan, Artifact.ofModule, List.map_append, List.map_flatMap,
    List.map_map, ← List.range_eq_range']
  congr 2
  exact List.flatMap_pure_eq_map _ _

theorem calls_rootDescriptionsPlan (root : Path) (shape : Shape) (backends : List Backend) :
    (rootDescriptionsPlan root shape.modules backends).calls =
      (backends.map .rootDescription).map (Artifact.call root shape) := by
  rw [rootDescriptionsPlan, Plan.calls_forEach, List.map_map]
  exact List.flatMap_pure_eq_map _ _

theorem calls_plan (root : Path) (shape : Shape) (backends : List Backend) :
    (plan root shape backends).calls =
      (openingPlan root shape.modules).calls
        ++ (List.range shape.modules).flatMap
          (fun module => (modulePlan root shape backends module).calls)
        ++ (rootDescriptionsPlan root shape.modules backends).calls := by
  simp only [plan_eq_append, Plan.calls_append, Plan.calls_each, List.range_eq_range',
    List.append_assoc]

theorem artifacts_openingPlan (root : Path) (modules : Nat) :
    (openingPlan root modules).artifacts = [Artifact.main.path root] := rfl

theorem artifacts_filePlan (root : Path) (shape : Shape) (module file : Nat) :
    (filePlan (modulePath root module) module shape file).artifacts =
      [.header module file, .source module file].map (Artifact.path root) := rfl

theorem artifacts_modulePlan (root : Path) (shape : Shape) (backends : List Backend)
    (module : Nat) :
    (modulePlan root shape backends module).artifacts =
      (Artifact.ofModule shape backends module).map (Artifact.path root) := by
  simp only [modulePlan, Plan.artifacts_call, Plan.artifacts_append, filesPlan,
    Plan.artifacts_each, Plan.artifacts_forEach, artifacts_filePlan, Artifact.ofModule,
    List.map_append, List.map_flatMap, List.map_map, ← List.range_eq_range']
  congr 1
  exact List.flatMap_pure_eq_map _ _

theorem artifacts_rootDescriptionsPlan (root : Path) (modules : Nat) (backends : List Backend) :
    (rootDescriptionsPlan root modules backends).artifacts =
      (backends.map .rootDescription).map (Artifact.path root) := by
  rw [rootDescriptionsPlan, Plan.artifacts_forEach, List.map_map]
  exact List.flatMap_pure_eq_map _ _

/-- A completed run notes the path of every artifact, in the order of writing. -/
theorem artifacts_plan (root : Path) (shape : Shape) (backends : List Backend) :
    (plan root shape backends).artifacts =
      (Artifact.ofTree shape backends).map (Artifact.path root) := by
  simp only [plan_eq_append, Plan.artifacts_append, Plan.artifacts_each, artifacts_openingPlan,
    artifacts_modulePlan, artifacts_rootDescriptionsPlan, Artifact.ofTree, List.map_cons,
    List.map_append, List.map_flatMap, List.cons_append, List.nil_append, List.range_eq_range']

/-- The number of headers and sources of a module. -/
def filesWritten (shape : Shape) : Nat := 2 * shape.filesPerModule

/-- Two are counted for each file of a module. -/
theorem sum_counts_filesPlan (directory : Path) (module : Nat) (shape : Shape) :
    (filesPlan directory module shape).counts.sum = filesWritten shape := by
  have pair : ∀ file, (filePlan directory module shape file).counts.sum = 2 := fun _ => rfl
  rw [filesPlan, Plan.sum_counts_each pair, filesWritten, Nat.mul_comm]

theorem sum_counts_modulePlan (root : Path) (shape : Shape) (backends : List Backend)
    (module : Nat) :
    (modulePlan root shape backends module).counts.sum = filesWritten shape := by
  rw [modulePlan, Plan.counts_call, Plan.counts_append, List.sum_append, sum_counts_filesPlan,
    Plan.sum_counts_forEach fun _ => rfl, Nat.add_zero]

/-- Headers and sources are counted module by module, and nothing else is. -/
theorem sum_counts_plan (root : Path) (shape : Shape) (backends : List Backend) :
    (plan root shape backends).counts.sum = shape.modules * filesWritten shape := by
  rw [plan_eq_append, Plan.counts_append, Plan.counts_append, List.sum_append, List.sum_append,
    Plan.sum_counts_each (sum_counts_modulePlan root shape backends), rootDescriptionsPlan,
    Plan.sum_counts_forEach fun _ => rfl, Nat.add_zero]
  exact Nat.zero_add _

/-- Up to order, the plan makes every directory and then writes every artifact. -/
theorem calls_plan_perm (root : Path) (shape : Shape) (backends : List Backend) :
    (plan root shape backends).calls.Perm
      ((directories root shape.modules).map .createDirectory
        ++ (Artifact.ofTree shape backends).map (Artifact.call root shape)) := by
  have modules := List.map_append_flatMap_perm (List.range shape.modules)
    (fun module => Call.createDirectory (modulePath root module))
    (fun module => (Artifact.ofModule shape backends module).map (Artifact.call root shape))
  simp only [calls_plan, calls_openingPlan, calls_modulePlan, calls_rootDescriptionsPlan,
    directories, Artifact.ofTree, List.map_cons, List.map_append, List.map_flatMap, List.map_map,
    List.cons_append, List.nil_append]
  apply List.Perm.cons
  refine .trans (.cons _ (modules.symm.append_right _)) ?_
  simpa [Function.comp_def] using List.perm_middle.symm

theorem mem_calls_plan {root : Path} {shape : Shape} {backends : List Backend} {call : Call} :
    call ∈ (plan root shape backends).calls ↔
      (∃ directory ∈ directories root shape.modules, call = .createDirectory directory) ∨
        ∃ artifact : Artifact,
          artifact.Belongs shape backends ∧ call = artifact.call root shape := by
  rw [(calls_plan_perm root shape backends).mem_iff]
  simp [Artifact.mem_ofTree, eq_comm]

theorem createDirectory_mem_calls_plan {root directory : Path} {shape : Shape}
    {backends : List Backend} :
    .createDirectory directory ∈ (plan root shape backends).calls ↔
      directory ∈ directories root shape.modules := by
  rw [mem_calls_plan]
  simp [Artifact.call]

theorem writeFile_mem_calls_plan {root path : Path} {shape : Shape} {backends : List Backend}
    {text : String} :
    .writeFile path text ∈ (plan root shape backends).calls ↔ ∃ artifact : Artifact,
      artifact.Belongs shape backends ∧ path = artifact.path root ∧ text = artifact.text shape := by
  rw [mem_calls_plan]
  simp [Artifact.call]

theorem length_calls_plan (root : Path) (shape : Shape) (backends : List Backend) :
    (plan root shape backends).calls.length =
      2 + shape.modules * (1 + 2 * shape.filesPerModule + backends.length) + backends.length := by
  rw [(calls_plan_perm root shape backends).length_eq]
  simp only [List.length_append, List.length_map, Artifact.length_ofTree, directories,
    List.length_cons, List.length_range]
  ring

theorem eq_of_same_modulePath {root : Path} {left right : Nat}
    (same : (modulePath root left).Same (modulePath root right)) : left = right := by
  rw [Path.Same, Artifact.components_modulePath, Artifact.components_modulePath] at same
  simpa [Source.moduleDirectory_inj] using same

/-- The directories of a tree lie at different places. -/
theorem pairwise_directories (root : Path) (modules : Nat) :
    (directories root modules).Pairwise fun left right => ¬left.Same right := by
  rw [directories, List.pairwise_cons]
  constructor
  · intro directory directory_mem same
    rcases List.mem_map.mp directory_mem with ⟨module, _, rfl⟩
    have lengths := congrArg List.length same
    simp [Artifact.components_modulePath] at lengths
  · rw [List.pairwise_map]
    exact List.nodup_range.imp fun different same => different (eq_of_same_modulePath same)

end Tree

end BenchTree

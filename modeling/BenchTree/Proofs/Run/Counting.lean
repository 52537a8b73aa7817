import BenchTree.Proofs.Source.Closed
import BenchTree.Proofs.Source.Counting
import BenchTree.Proofs.Word.Saturation

/-!
# What a summary counts

The counts of a summary are worked out from the numbers of a shape. Here the same counts are read
off the store that a run leaves: the directories in the root, the headers and sources in them, the
files named as descriptions are, and the lines and terms in the texts. Up to order a store that was
empty shows the directories and the artifacts of the tree, so each count is a sum over artifacts in
which every artifact of one kind weighs the same.
-/

namespace BenchTree

namespace Path

/-- Whether the last name of a path has a property is found out by looking at that name. -/
instance (path : Path) (property : String → Prop) [DecidablePred property] :
    Decidable (∃ name, path.components.getLast? = some (.name name) ∧ property name) :=
  match path.components.getLast? with
  | some (.name name) => decidable_of_iff (property name) (by simp)
  | some .root | some .current | some .parent | none => .isFalse (by simp)

/-- Whether a path ends in an extension is found out by its last name. -/
instance (path : Path) (extension : String) : Decidable (path.EndsIn extension) :=
  inferInstanceAs (Decidable (∃ name, path.components.getLast? = some (.name name) ∧
    extension.toList <:+ name.toList))

/-- Whether a path lies in a directory is found out by its last name. -/
instance (path directory : Path) : Decidable (path.LiesIn directory) :=
  decidable_of_iff (∃ name, path.components.getLast? = some (.name name) ∧
    path.components = directory.components ++ [.name name])
    ⟨fun ⟨name, _, spelled⟩ => ⟨name, spelled⟩,
      fun ⟨name, spelled⟩ => ⟨name, by rw [spelled, List.getLast?_concat], spelled⟩⟩

/-- The file is named as the descriptions of a backend are. -/
def IsDescription (path : Path) : Prop :=
  ∃ backend ∈ Backend.all, path.components.getLast? = some (.name backend.fileName)

/-- Whether a path is that of a description is found out backend by backend. -/
instance (path : Path) : Decidable path.IsDescription :=
  inferInstanceAs (Decidable (∃ backend ∈ Backend.all, _))

end Path

namespace Store

variable (store : Store) (root : Path)

/-- The directories that lie in the root of a tree. -/
def moduleDirectories : List Path :=
  store.directoryList.filter fun directory => directory.LiesIn root

/-- The path lies in the directory of a module. -/
def InModule (path : Path) : Prop :=
  ∃ directory ∈ store.moduleDirectories root, path.LiesIn directory

/-- Whether a path lies in some module is found out module by module. -/
instance (path : Path) : Decidable (store.InModule root path) :=
  inferInstanceAs (Decidable (∃ directory ∈ store.moduleDirectories root, _))

/-- The headers and sources of the modules. -/
def moduleTexts : List (Path × String) :=
  store.fileList.filter fun file =>
    store.InModule root file.1 ∧ (file.1.EndsIn ".h" ∨ file.1.EndsIn ".c")

/-- The sources of the modules. -/
def moduleSources : List (Path × String) :=
  store.fileList.filter fun file => store.InModule root file.1 ∧ file.1.EndsIn ".c"

/-- The descriptions of the modules and of the executable. -/
def descriptions : List (Path × String) := store.fileList.filter fun file => file.1.IsDescription

end Store

/-- A summary counts what a store holds; all counts but that of the modules stop at the largest
word. -/
structure Summary.Counts (summary : Summary) (store : Store) (root : Path) : Prop where
  modules : summary.modules = (store.moduleDirectories root).length
  sources : summary.sources = Word.saturate (store.moduleTexts root).length
  descriptions : summary.descriptions = Word.saturate store.descriptions.length
  includes : summary.dependencyEdges = Word.saturate
    ((store.moduleSources root).map fun file => Source.includeCount file.2).sum
  terms : summary.dependencyEdges = Word.saturate
    ((store.moduleSources root).map fun file => Source.termCount file.2).sum

namespace Artifact

variable {root : Path} {shape : Shape} {backends : List Backend} {artifact : Artifact}

/-- What an artifact counts for when that depends on its kind only. -/
def weigh (header source description : Nat) : Artifact → Nat
  | .main => 0
  | .header _ _ => header
  | .source _ _ => source
  | .moduleDescription _ _ => description
  | .rootDescription _ => description

theorem sum_weigh_ofModule (header source description : Nat) (shape : Shape)
    (backends : List Backend) (module : Nat) :
    ((ofModule shape backends module).map (weigh header source description)).sum =
      shape.filesPerModule * (header + source) + backends.length * description := by
  simp [ofModule, List.flatMap_def, List.sum_flatten, Function.comp_def, weigh]

theorem sum_weigh_ofTree (header source description : Nat) (shape : Shape)
    (backends : List Backend) :
    ((ofTree shape backends).map (weigh header source description)).sum =
      shape.modules * (shape.filesPerModule * (header + source))
        + backends.length * (shape.modules + 1) * description := by
  have modules : (((List.range shape.modules).flatMap (ofModule shape backends)).map
      (weigh header source description)).sum = shape.modules *
        (shape.filesPerModule * (header + source) + backends.length * description) := by
    simp [List.flatMap_def, List.sum_flatten, Function.comp_def, sum_weigh_ofModule]
  have descriptions : ((backends.map rootDescription).map
      (weigh header source description)).sum = backends.length * description := by
    simp [Function.comp_def, weigh]
  rw [ofTree, List.map_append, List.sum_append, List.map_cons, List.sum_cons, modules,
    descriptions, weigh]
  ring

theorem endsIn_source (module file : Nat) : ((source module file).path root).EndsIn ".c" :=
  endsIn_iff.mpr ⟨Source.sourceName file, rfl, by simp⟩

theorem not_endsIn_header (module file : Nat) :
    ¬((header module file).path root).EndsIn ".c" := by
  intro source
  rcases eq_main_or_eq_source source with same | ⟨_, _, same⟩ <;> cases same

theorem not_endsIn_moduleDescription {module : Nat} {backend : Backend} {extension : String}
    (other : extension = ".h" ∨ extension = ".c") :
    ¬((moduleDescription module backend).path root).EndsIn extension := by
  rw [endsIn_iff]
  rintro ⟨name, last, ends⟩
  have named : name = backend.fileName := (Option.some.inj last).symm
  subst named
  rcases other with rfl | rfl
  · cases backend <;> exact absurd ends (by decide)
  · cases backend <;> exact absurd ends (by decide)

/-- The artifact is a description. -/
def describes : Artifact → Bool
  | .main => false
  | .header _ _ => false
  | .source _ _ => false
  | .moduleDescription _ _ => true
  | .rootDescription _ => true

theorem isDescription_iff : (artifact.path root).IsDescription ↔ artifact.describes = true := by
  have named : (artifact.path root).IsDescription ↔
      ∃ backend : Backend, artifact.names.getLast? = some backend.fileName := by
    have listed : ∀ backend, backend ∈ Backend.all := by
      intro backend
      cases backend <;> decide
    cases artifact <;> simp [Path.IsDescription, components_path, names, listed]
  rw [named]
  cases artifact with
  | main => simp [names, describes, Ne.symm (Backend.fileName_ne_mainName _)]
  | header module file =>
      simp [names, describes, Ne.symm (Backend.fileName_ne_headerName _ _)]
  | source module file =>
      simp [names, describes, Ne.symm (Backend.fileName_ne_sourceName _ _)]
  | moduleDescription module backend => simp [names, describes, Backend.fileName_inj]
  | rootDescription backend => simp [names, describes, Backend.fileName_inj]

end Artifact

namespace Store

/-- A store shows the directories and files of a tree and nothing else. -/
structure IsTree (store : Store) (root : Path) (shape : Shape) (backends : List Backend) :
    Prop where
  directories : store.directoryList.Perm (Tree.directories root shape.modules)
  files : store.fileList.Perm ((Artifact.ofTree shape backends).map fun artifact =>
    (artifact.path root, artifact.text shape))

variable {root : Path} {shape : Shape} {backends : List Backend} {calls : List Call}

theorem isTree_after (distinct : backends.Nodup)
    (perm : calls.Perm (Tree.plan root shape backends).calls) :
    (empty.after calls).IsTree root shape backends := by
  have apart := Tree.pairwise_apart_of_perm distinct perm
  have none_yet : empty.directories.toList = [] := rfl
  constructor
  · rw [List.perm_ext_iff_of_nodup]
    · intro directory
      rw [mem_directoryList, directories_after, none_yet, List.nil_append,
        find?_eq_some_of_apart (pairwise_directories_of_apart apart),
        Call.mem_filterMap_directory?, perm.mem_iff, Tree.createDirectory_mem_calls_plan]
      simp [Path.Same]
    · exact (pairwise_directoryList _).imp Path.Before.ne
    · apply (Tree.pairwise_directories root shape.modules).imp
      intro left right different same
      exact different (congrArg Path.components same)
  · rw [List.perm_ext_iff_of_nodup]
    · intro file
      rw [areTree_after distinct perm]
      simp [Artifact.mem_ofTree, eq_comm]
    · exact (pairwise_fileList _).imp fun before same => before.ne (by rw [same])
    · apply (Artifact.nodup_ofTree distinct shape).map
      intro left right same
      exact Artifact.eq_of_same_path (congrArg Path.components (Prod.mk.inj same).1)

namespace IsTree

variable {store : Store} (tree : store.IsTree root shape backends)

include tree

theorem moduleDirectories_perm :
    (store.moduleDirectories root).Perm
      ((List.range shape.modules).map (Tree.modulePath root)) := by
  have root_apart : ¬root.LiesIn root := by
    rintro ⟨name, same⟩
    simp at same
  have inside : ∀ directory ∈ (List.range shape.modules).map (Tree.modulePath root),
      decide (directory.LiesIn root) = true := by
    intro directory directory_mem
    rcases List.mem_map.mp directory_mem with ⟨module, _, rfl⟩
    exact decide_eq_true ⟨_, Artifact.components_modulePath root module⟩
  have kept := tree.directories.filter fun directory => directory.LiesIn root
  rwa [Tree.directories, List.filter_cons_of_neg (by simpa using root_apart),
    List.filter_eq_self.mpr inside] at kept

theorem inModule_iff {artifact : Artifact} (belongs : artifact.Belongs shape backends) :
    store.InModule root (artifact.path root) ↔
      artifact.author ≠ .opening ∧ artifact.author ≠ .closing := by
  simp only [InModule, tree.moduleDirectories_perm.mem_iff, List.mem_map, List.mem_range,
    exists_exists_and_eq_and, Artifact.liesIn_modulePath_iff]
  cases author_eq : artifact.author with
  | opening => simp
  | module module => simpa using belongs.author_lt author_eq
  | closing => simp

/-- Where the files of a kind weigh the same, the files of a tree weigh as its artifacts do. -/
theorem sum_filter_files (kept : Path × String → Prop) [DecidablePred kept]
    (weight : Path × String → Nat) {header source description : Nat}
    (weighs : ∀ artifact : Artifact, artifact.Belongs shape backends →
      (if kept (artifact.path root, artifact.text shape) then
        weight (artifact.path root, artifact.text shape) else 0) =
          artifact.weigh header source description) :
    ((store.fileList.filter fun file => kept file).map weight).sum =
      shape.modules * (shape.filesPerModule * (header + source))
        + backends.length * (shape.modules + 1) * description := by
  have kept_sum : ((store.fileList.filter fun file => kept file).map weight).sum =
      (store.fileList.map fun file => if kept file then weight file else 0).sum := by
    simp [List.sum_map_ite]
  rw [kept_sum, (tree.files.map _).sum_eq, List.map_map, ← Artifact.sum_weigh_ofTree]
  congr 1
  apply List.map_congr_left
  intro artifact artifact_mem
  exact weighs artifact (Artifact.mem_ofTree.mp artifact_mem)

theorem length_moduleDirectories : (store.moduleDirectories root).length = shape.modules := by
  rw [tree.moduleDirectories_perm.length_eq, List.length_map, List.length_range]

theorem length_moduleTexts :
    (store.moduleTexts root).length = shape.modules * (2 * shape.filesPerModule) := by
  have weighs : ∀ artifact : Artifact, artifact.Belongs shape backends →
      (if store.InModule root (artifact.path root) ∧ ((artifact.path root).EndsIn ".h" ∨
        (artifact.path root).EndsIn ".c") then 1 else 0) = artifact.weigh 1 1 0 := by
    intro artifact belongs
    simp only [tree.inModule_iff belongs]
    cases artifact with
    | main => simp [Artifact.author, Artifact.weigh]
    | header module file => simp [Artifact.author, Artifact.weigh, Artifact.endsIn_header]
    | source module file => simp [Artifact.author, Artifact.weigh, Artifact.endsIn_source]
    | moduleDescription module backend =>
        simp [Artifact.weigh, Artifact.not_endsIn_moduleDescription]
    | rootDescription backend => simp [Artifact.author, Artifact.weigh]
  have counted := tree.sum_filter_files (fun file =>
    store.InModule root file.1 ∧ (file.1.EndsIn ".h" ∨ file.1.EndsIn ".c")) (fun _ => 1) weighs
  simpa [moduleTexts, Nat.mul_comm 2] using counted

theorem length_descriptions :
    store.descriptions.length = backends.length * (shape.modules + 1) := by
  have weighs : ∀ artifact : Artifact, artifact.Belongs shape backends →
      (if (artifact.path root).IsDescription then 1 else 0) = artifact.weigh 0 0 1 := by
    intro artifact _
    rw [if_congr Artifact.isDescription_iff rfl rfl]
    cases artifact <;> rfl
  have counted := tree.sum_filter_files (fun file => file.1.IsDescription) (fun _ => 1) weighs
  simpa [descriptions] using counted

/-- What comes to the fanout in every source comes to all dependencies in the sources of a tree. -/
theorem sum_moduleSources {count : String → Nat}
    (counted : ∀ module file, count (Source.source module file shape) = shape.fanout) :
    ((store.moduleSources root).map fun file => count file.2).sum =
      shape.filesPerModule * shape.fanout * shape.modules := by
  have weighs : ∀ artifact : Artifact, artifact.Belongs shape backends →
      (if store.InModule root (artifact.path root) ∧ (artifact.path root).EndsIn ".c" then
        count (artifact.text shape) else 0) = artifact.weigh 0 shape.fanout 0 := by
    intro artifact belongs
    simp only [tree.inModule_iff belongs]
    cases artifact with
    | main => simp [Artifact.author, Artifact.weigh]
    | header module file => simp [Artifact.weigh, Artifact.not_endsIn_header]
    | source module file =>
        simp [Artifact.author, Artifact.weigh, Artifact.endsIn_source, Artifact.text, counted]
    | moduleDescription module backend =>
        simp [Artifact.weigh, Artifact.not_endsIn_moduleDescription]
    | rootDescription backend => simp [Artifact.author, Artifact.weigh]
  have summed := tree.sum_filter_files (fun file =>
    store.InModule root file.1 ∧ file.1.EndsIn ".c") (fun file => count file.2) weighs
  rw [moduleSources, summed]
  ring

/-- The summary that a shape and its backends give counts the tree. -/
theorem counts (parallel : Bool) :
    ((Generator.mk shape backends parallel).summary (Word.saturatingMul shape.modules
      (Tree.filesWritten shape))).Counts store root where
  modules := tree.length_moduleDirectories.symm
  sources := by
    rw [tree.length_moduleTexts]
    rfl
  descriptions := by
    rw [tree.length_descriptions, ← Word.saturatingMul_saturatingAdd]
    rfl
  includes := by
    rw [tree.sum_moduleSources fun module file => Source.includeCount_source module file shape]
    exact Word.saturatingMul_saturatingMul _ _ _
  terms := by
    rw [tree.sum_moduleSources fun module file => Source.termCount_source module file shape]
    exact Word.saturatingMul_saturatingMul _ _ _

end IsTree

end Store

/-- A product of counts stops where the exact one would, and a factor of zero is never lost. In
whatever order the workers take their turns, the summary of a run into an empty store counts what
is then in it; the headers and sources may as well be added up module by module. -/
theorem summary_counts_tree :
    (∀ shape : Shape,
      shape.dependencyEdges =
        min (shape.filesPerModule * shape.fanout * shape.modules) Word.largest ∧
      (shape.dependencyEdges = 0 ↔
        shape.filesPerModule = 0 ∨ shape.fanout = 0 ∨ shape.modules = 0)) ∧
    ∀ (shape : Shape) (backends : List Backend) (parallel : Bool) (root : Path),
      shape.validate = .ok () →
      let generator := Generator.create shape backends parallel
      (∃ summary, (generator.generate Store.sink root .empty).1 = .ok summary ∧
        summary.Counts (generator.generate Store.sink root .empty).2 root) ∧
      ∀ recording,
        generator.MayEnd Store.sink root recording .empty
          (generator.run Store.sink root recording .empty).1
          (generator.run Store.sink root recording .empty).2 ∧
        ∀ result final, generator.MayEnd Store.sink root recording .empty result final →
          ∃ manifest, result = .ok manifest ∧ manifest.summary.Counts final root ∧
            manifest.summary.sources = (List.replicate shape.modules
              (Tree.filesWritten shape)).foldl Word.saturatingAdd 0 := by
  refine ⟨?_, ?_⟩
  · intro shape
    have stopped : shape.dependencyEdges =
        Word.saturate (shape.filesPerModule * shape.fanout * shape.modules) :=
      Word.saturatingMul_saturatingMul _ _ _
    refine ⟨stopped, ?_⟩
    rw [stopped, Word.saturate_eq_zero_iff, Nat.mul_eq_zero, Nat.mul_eq_zero, or_assoc]
  · intro shape backends parallel root valid generator
    have ends : ∀ recording result final,
        generator.MayEnd Store.sink root recording .empty result final →
        ∃ manifest, result = .ok manifest ∧ manifest.summary.Counts final root ∧
          manifest.summary.sources = (List.replicate shape.modules
            (Tree.filesWritten shape)).foldl Word.saturatingAdd 0 := by
      intro recording result final mayEnd
      rcases mayEnd.exists_perm valid with ⟨calls, perm, rfl, succeeded⟩
      have tree := Store.isTree_after (Backend.nodup_distinct backends) perm
      refine ⟨_, succeeded, ?_⟩
      rw [Generator.summary_manifest]
      refine ⟨tree.counts parallel, ?_⟩
      have added := Word.foldl_saturatingAdd
        (List.replicate shape.modules (Tree.filesWritten shape)) 0
      rw [List.sum_replicate, Nat.zero_add] at added
      exact added.symm
    refine ⟨?_, ?_⟩
    · rcases ends false _ _ (generator.mayEnd_run Store.sink root false .empty) with
        ⟨manifest, succeeded, counts, _⟩
      exact ⟨manifest.summary, by simp [Generator.generate, succeeded, Except.map], counts⟩
    · intro recording
      exact ⟨generator.mayEnd_run Store.sink root recording .empty, ends recording⟩

/-- Of too many dependencies no more are counted than fit into a word, and of none, none. -/
theorem summary_counts_tree_at_limit :
    (⟨2 ^ 32, 2 ^ 32, 0⟩ : Shape).dependencyEdges = 0 ∧
      (⟨2 ^ 32, 2 ^ 32, 1⟩ : Shape).dependencyEdges = 2 ^ 64 - 1 ∧
      Shape.validate ⟨2, 5, 3⟩ = .ok () ∧
      let generator := Generator.create ⟨2, 5, 3⟩ [.cmake, .meique, .cmake] true
      ∃ summary, (generator.generate Store.sink ⟨"./out"⟩ .empty).1 = .ok summary ∧
        summary.Counts (generator.generate Store.sink ⟨"./out"⟩ .empty).2 ⟨"./out"⟩ := by
  have valid : Shape.validate ⟨2, 5, 3⟩ = .ok () := rfl
  rcases summary_counts_tree with ⟨product, counts⟩
  refine ⟨(product _).2.mpr (by decide), ?_, valid, ?_⟩
  · rw [(product _).1]
    decide
  · exact (counts ⟨2, 5, 3⟩ [.cmake, .meique, .cmake] true ⟨"./out"⟩ valid).1

end BenchTree

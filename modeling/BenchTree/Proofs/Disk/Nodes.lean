import BenchTree.Proofs.Disk.Generation
import BenchTree.Proofs.Disk.Growth

/-!
# The nodes of a tree

Below its root a tree has the directories of its modules and its artifacts. Each of these nodes has
a name of its own in the root or in the directory of a module, and one call of the plan is about it.
Where the directory that a node belongs into can be reached, this call succeeds exactly when the
system takes the node's path and no entry of the other kind has its name.
-/

namespace BenchTree

/-- The name of an artifact in its directory. -/
def Artifact.ownName : Artifact → String
  | .main => Source.mainName
  | .header _ file => Source.headerName file
  | .source _ file => Source.sourceName file
  | .moduleDescription _ backend => backend.fileName
  | .rootDescription backend => backend.fileName

/-- What a tree has below its root: the directories of its modules, and its artifacts. -/
inductive Node where
  | directory (module : Nat)
  | file (artifact : Artifact)

namespace Node

/-- The directory that a node lies in. -/
def parent (root : Path) : Node → Path
  | .directory _ => root
  | .file artifact => artifact.directory root

/-- The names that lead from the root to the directory that a node lies in. -/
def above : Node → List String
  | .directory _ => []
  | .file artifact => artifact.names.dropLast

/-- The name of a node in the directory that it lies in. -/
def ownName : Node → String
  | .directory module => Source.moduleDirectory module
  | .file artifact => artifact.ownName

/-- The names that lead from the root to a node. -/
def names (node : Node) : List String := node.above ++ [node.ownName]

/-- What a tree has at a node. -/
def entry (shape : Shape) : Node → Entry
  | .directory _ => .directory
  | .file artifact => .file (artifact.text shape).toUTF8

/-- The call that is about a node. -/
def call (root : Path) (shape : Shape) : Node → Call
  | .directory module => .createDirectory (Tree.modulePath root module)
  | .file artifact => artifact.call root shape

/-- The nodes of a tree of the given shape for the given backends. -/
def Belongs (shape : Shape) (backends : List Backend) : Node → Prop
  | .directory module => module < shape.modules
  | .file artifact => artifact.Belongs shape backends

variable {root : Path} {shape : Shape} {backends : List Backend} {node other : Node}

theorem names_file (artifact : Artifact) : (Node.file artifact).names = artifact.names := by
  cases artifact <;> rfl

theorem names_directory (module : Nat) :
    (Node.directory module).names = [Source.moduleDirectory module] := rfl

theorem isOrdinary_ownName (node : Node) : Path.IsOrdinary node.ownName := by
  cases node with
  | directory module => exact Source.isOrdinary_moduleDirectory module
  | file artifact =>
      apply artifact.isOrdinary_of_mem_names
      rw [← names_file, names]
      exact List.mem_concat_self

theorem call_directory (root : Path) (shape : Shape) (module : Nat) :
    (Node.directory module).call root shape =
      .createDirectory (((Node.directory module).parent root).join
        (Node.directory module).ownName) := rfl

theorem call_file (root : Path) (shape : Shape) (artifact : Artifact) :
    (Node.file artifact).call root shape =
      .writeFile (((Node.file artifact).parent root).join (Node.file artifact).ownName)
        (artifact.text shape) := by
  cases artifact <;> rfl

/-- A node lies in the root, or in the directory of the module whose worker writes it. -/
theorem parent_cases (root : Path) (node : Node) :
    node.parent root = root ∧ node.above = [] ∨
      ∃ module artifact, node = .file artifact ∧ artifact.author = .module module ∧
        node.parent root = Tree.modulePath root module ∧
        node.above = [Source.moduleDirectory module] := by
  cases node with
  | directory module => exact .inl ⟨rfl, rfl⟩
  | file artifact =>
      cases artifact with
      | main => exact .inl ⟨rfl, rfl⟩
      | rootDescription backend => exact .inl ⟨rfl, rfl⟩
      | header module file => exact .inr ⟨module, _, rfl, rfl, rfl, rfl⟩
      | source module file => exact .inr ⟨module, _, rfl, rfl, rfl, rfl⟩
      | moduleDescription module backend => exact .inr ⟨module, _, rfl, rfl, rfl, rfl⟩

/-- Different nodes are at different places. -/
theorem eq_of_names_eq (same : node.names = other.names) : node = other := by
  cases node with
  | directory module =>
      cases other with
      | directory second =>
          rw [names_directory, names_directory, List.singleton_inj,
            Source.moduleDirectory_inj] at same
          rw [same]
      | file second =>
          rw [names_directory, names_file] at same
          exact absurd (same ▸ List.prefix_rfl) (second.not_prefix_moduleDirectory module)
  | file first =>
      cases other with
      | directory module =>
          rw [names_directory, names_file] at same
          exact absurd (same ▸ List.prefix_rfl) (first.not_prefix_moduleDirectory module)
      | file second =>
          rw [names_file, names_file] at same
          rw [Artifact.names_injective same]

/-- No two nodes have the same call. -/
theorem eq_of_call_eq (same : node.call root shape = other.call root shape) : node = other := by
  cases node with
  | directory module =>
      cases other with
      | directory second =>
          rw [Tree.eq_of_same_modulePath (congrArg Path.components (Call.createDirectory.inj same))]
      | file second => cases same
  | file first =>
      cases other with
      | directory module => cases same
      | file second =>
          rw [Artifact.eq_of_same_path (congrArg Path.components (Call.writeFile.inj same).1)]

theorem mem_calls_plan {call : Call} :
    call ∈ (Tree.plan root shape backends).calls ↔
      call = .createDirectory root ∨
        ∃ node : Node, node.Belongs shape backends ∧ call = node.call root shape := by
  rw [Tree.mem_calls_plan]
  constructor
  · rintro (⟨directory, directory_mem, rfl⟩ | ⟨artifact, belongs, rfl⟩)
    · rcases List.mem_cons.mp directory_mem with rfl | directory_mem
      · exact .inl rfl
      · rcases List.mem_map.mp directory_mem with ⟨module, module_mem, rfl⟩
        exact .inr ⟨.directory module, List.mem_range.mp module_mem, rfl⟩
    · exact .inr ⟨.file artifact, belongs, rfl⟩
  · rintro (rfl | ⟨node, belongs, rfl⟩)
    · exact .inl ⟨root, List.mem_cons_self, rfl⟩
    · cases node with
      | directory module =>
          refine .inl ⟨_, .tail _ (List.mem_map_of_mem (List.mem_range.mpr belongs)), rfl⟩
      | file artifact => exact .inr ⟨artifact, belongs, rfl⟩

theorem call_ne_createDirectory_root : node.call root shape ≠ .createDirectory root := by
  intro same
  cases node with
  | directory module =>
      have lengths := congrArg (fun path => path.components.length) (Call.createDirectory.inj same)
      simp [Artifact.components_modulePath] at lengths
  | file artifact => cases same

end Node

namespace Disk

/-- The call about a node can be carried out when its directory is there: the system takes its path,
and no entry of the other kind has its name. -/
structure Admits (disk : Disk) (place : Location) (root : Path) (shape : Shape) (node : Node) :
    Prop where
  can : CanName (node.parent root) node.ownName
  same : ∀ old, disk.find? (place ++ node.names) = some old →
    (node.entry shape = .directory ↔ old = .directory)

variable {disk next : Disk} {place : Location} {root : Path} {shape : Shape} {node : Node}

theorem LeadsTo.admits_of_perform
    (leads : disk.LeadsTo (node.parent root) (place ++ node.above))
    (success : sink.perform (node.call root shape) disk = (.ok (), next)) :
    disk.Admits place root shape node ∧
      disk.Gains (place ++ node.names) (node.entry shape) next := by
  have ordinary := node.isOrdinary_ownName
  have spelled : place ++ node.above ++ [node.ownName] = place ++ node.names :=
    List.append_assoc ..
  have notRoot : place ++ node.names ≠ [] := by simp [Node.names]
  cases node with
  | directory module =>
      rw [Node.call_directory] at success
      rcases (leads.createDirectory_join_iff ordinary).mp success with
        ⟨can, ⟨absent, rfl⟩ | ⟨present, rfl⟩⟩
      · rw [spelled] at absent ⊢
        refine ⟨⟨can, ?_⟩, gains_put _ notRoot _⟩
        intro old found
        rw [absent] at found
        cases found
      · rw [spelled] at present
        refine ⟨⟨can, ?_⟩, rfl, present, fun _ _ => rfl⟩
        intro old found
        rw [present] at found
        simp [Node.entry, ← Option.some.inj found]
  | file artifact =>
      rw [Node.call_file] at success
      rcases (leads.writeFile_join_iff ordinary).mp (eq_ok_of_update success) with
        ⟨can, notDirectory, rfl⟩
      rw [spelled] at notDirectory ⊢
      refine ⟨⟨can, ?_⟩, gains_put _ notRoot _⟩
      intro old found
      simp only [Node.entry, reduceCtorEq, false_iff]
      rintro rfl
      exact notDirectory found

theorem LeadsTo.perform_eq_ok
    (leads : disk.LeadsTo (node.parent root) (place ++ node.above))
    (admits : disk.Admits place root shape node) :
    (sink.perform (node.call root shape) disk).1 = .ok () := by
  have ordinary := node.isOrdinary_ownName
  have spelled : place ++ node.above ++ [node.ownName] = place ++ node.names :=
    List.append_assoc ..
  cases node with
  | directory module =>
      have created : ∃ next, disk.createDirectory (((Node.directory module).parent root).join
          (Node.directory module).ownName) = (.ok (), next) := by
        simp only [leads.createDirectory_join_iff ordinary, spelled]
        cases found : disk.find? (place ++ (Node.directory module).names) with
        | none => exact ⟨_, admits.can, .inl ⟨rfl, rfl⟩⟩
        | some old =>
            have same := (admits.same old found).mp rfl
            exact ⟨disk, admits.can, .inr ⟨congrArg some same, rfl⟩⟩
      rcases created with ⟨next, created⟩
      exact congrArg Prod.fst created
  | file artifact =>
      have notDirectory : disk.find? (place ++ (Node.file artifact).names) ≠
          some .directory := by
        intro found
        have same := (admits.same _ found).mpr rfl
        cases same
      rw [← spelled] at notDirectory
      rw [Node.call_file]
      change (disk.update (disk.writeFile _ _)).1 = .ok ()
      rw [(leads.writeFile_join_iff ordinary).mpr ⟨admits.can, notDirectory, rfl⟩]
      rfl

end Disk

end BenchTree

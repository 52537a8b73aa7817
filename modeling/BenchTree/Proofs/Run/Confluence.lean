import BenchTree.Proofs.Parallel.Interleaving

/-!
# Independence of the order of calls

The calls of different modules touch different places, so the order in which the workers take their
turns cannot be told from what a store shows in the end. Both views of the store agree with those
after the sequential run: the files in the order of paths, and the directories, each in the
spelling in which it was made first. The result agrees as well, since the artifacts are put
together in the order of the modules.
-/

namespace BenchTree

/-- A store shows the same files and the same directories as another one. -/
structure Store.Agrees (left right : Store) : Prop where
  files : left.fileList = right.fileList
  directories : left.directoryList = right.directoryList

/-- After the calls of a tree a store shows the same, whatever the order of the calls. -/
theorem Store.agrees_after (store : Store) {root : Path} {shape : Shape} {backends : List Backend}
    (distinct : backends.Nodup) {left right : List Call}
    (left_perm : left.Perm (Tree.plan root shape backends).calls)
    (right_perm : right.Perm (Tree.plan root shape backends).calls) :
    (store.after left).Agrees (store.after right) := by
  have apart := Tree.pairwise_apart_of_perm distinct left_perm
  have perm := left_perm.trans right_perm.symm
  exact ⟨store.fileList_after_perm apart perm, store.directoryList_after_perm apart perm⟩

/-- Every interleaving of the modules' calls is a parallel run with the result of the sequential
one, and after every parallel run a store shows the same as after the sequential one. -/
theorem parallel_agrees_sequential (shape : Shape) (backends : List Backend) (root : Path)
    (recording : Bool) (store : Store) (valid : shape.validate = .ok ()) :
    let parallel := Generator.create shape backends true
    let sequential :=
      (Generator.create shape backends false).run Store.sink root recording store
    (∀ order, Tree.Interleaves root shape (Backend.distinct backends) order →
      let final := store.after (Tree.enclose root shape (Backend.distinct backends) order)
      parallel.MayEnd Store.sink root recording store sequential.1 final ∧
        final.Agrees sequential.2) ∧
    ∀ result final, parallel.MayEnd Store.sink root recording store result final →
      result = sequential.1 ∧ final.Agrees sequential.2 := by
  intro parallel sequential
  have agrees : ∀ result final,
      parallel.MayEnd Store.sink root recording store result final →
      result = sequential.1 ∧ final.Agrees sequential.2 := by
    intro result final mayEnd
    rcases ((Generator.create shape backends false).mayEnd_run Store.sink root recording
      store).exists_perm valid with ⟨calls, perm, state_eq, result_eq⟩
    rcases mayEnd.exists_perm valid with ⟨other, other_perm, rfl, succeeded⟩
    refine ⟨succeeded.trans result_eq.symm, ?_⟩
    rw [state_eq]
    exact store.agrees_after (Backend.nodup_distinct backends) other_perm perm
  refine ⟨?_, agrees⟩
  intro order interleaves final
  rcases parallel.exists_mayEnd rfl valid interleaves recording store with ⟨result, mayEnd⟩
  rcases agrees result _ mayEnd with ⟨rfl, shown⟩
  exact ⟨mayEnd, shown⟩

/-- The order in which the first of two modules makes its directory, then the second one does all
of its work, and then the first goes on. -/
def Tree.interruptedOrder (root : Path) (shape : Shape) (backends : List Backend) :
    List (Nat × Call) :=
  (0, .createDirectory (modulePath root 0)) ::
    (modulePlan root shape backends 1).calls.map (fun call => (1, call))
      ++ ((Artifact.ofModule shape backends 0).map (Artifact.call root shape)).map
        fun call => (0, call)

theorem Tree.interleaves_interruptedOrder {root : Path} {shape : Shape} {backends : List Backend}
    (two : shape.modules = 2) :
    Interleaves root shape backends (interruptedOrder root shape backends) := by
  have own : ∀ (module : Nat) (calls : List Call),
      ((calls.map fun call => (module, call)).filter fun entry => entry.1 = module).map Prod.snd =
        calls := by
    intro module calls
    rw [List.filter_eq_self.mpr (by simp), List.map_map]
    exact List.map_id calls
  have foreign : ∀ (module other : Nat) (calls : List Call), module ≠ other →
      (calls.map fun call => (module, call)).filter (fun entry => entry.1 = other) = [] := by
    intro module other calls different
    rw [List.filter_eq_nil_iff]
    simp [different]
  constructor
  · intro entry entry_mem
    simp only [interruptedOrder, List.cons_append, List.mem_cons, List.mem_append,
      List.mem_map] at entry_mem
    rcases entry_mem with rfl | ⟨_, _, rfl⟩ | ⟨_, _, rfl⟩ <;> simp [two]
  · intro module module_lt
    have cases : module = 0 ∨ module = 1 := by omega
    rcases cases with rfl | rfl
    · simp only [interruptedOrder, List.cons_append, List.filter_cons, decide_true, if_true,
        List.filter_append, foreign 1 0 _ one_ne_zero, List.nil_append, List.map_cons, own]
      rw [calls_modulePlan]
    · simp only [interruptedOrder, List.cons_append, List.filter_cons, zero_ne_one, decide_false,
        Bool.false_eq_true, if_false, List.filter_append, foreign 0 1 _ zero_ne_one,
        List.append_nil, own]

theorem parallel_agrees_sequential_interrupted :
    Shape.validate ⟨1, 1, 2⟩ = .ok () ∧
      (Store.empty.after (Tree.enclose ⟨"out"⟩ ⟨1, 1, 2⟩ (Backend.distinct [.meique])
        (Tree.interruptedOrder ⟨"out"⟩ ⟨1, 1, 2⟩ (Backend.distinct [.meique])))).Agrees
        ((Generator.create ⟨1, 1, 2⟩ [.meique] false).run Store.sink ⟨"out"⟩ true .empty).2 := by
  have valid : Shape.validate ⟨1, 1, 2⟩ = .ok () := rfl
  rcases parallel_agrees_sequential ⟨1, 1, 2⟩ [.meique] ⟨"out"⟩ true .empty valid with
    ⟨interleavings, _⟩
  exact ⟨valid, (interleavings _ (Tree.interleaves_interruptedOrder rfl)).2⟩

end BenchTree

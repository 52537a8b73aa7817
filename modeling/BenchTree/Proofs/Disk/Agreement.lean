import BenchTree.Proofs.Disk.Generation
import BenchTree.Proofs.Parallel.Termination

/-!
# Disks and stores show the same

A disk starts with an empty working directory, and a store starts empty. Both take the same steps:
single requests, and generators' runs whose workers may take their turns differently on either
side. As long as every step succeeds on the disk, both show the same after each step. A generator's
run from the start succeeds on the disk exactly when none of its paths is too long, and then it
ends as it does on the store.
-/

namespace BenchTree

/-- A step that is taken on a sink: a request, or a generator's run. -/
inductive Operation where
  | request (call : Call)
  | generation (shape : Shape) (backends : List Backend) (parallel : Bool) (root : Path)
      (recording : Bool)

namespace Operation

/-- The path that is given to a step is canonical. -/
def IsCanonical : Operation → Prop
  | .request call => call.path.IsCanonical
  | .generation _ _ _ root _ => root.IsCanonical

/-- A step succeeds and leaves the sink in a state. -/
inductive Succeeds {State : Type} (sink : Sink State) (before : State) :
    Operation → State → Prop where
  | request {call : Call} {after : State} (answer : sink.perform call before = (.ok (), after)) :
      Succeeds sink before (.request call) after
  | generation {shape : Shape} {backends : List Backend} {parallel : Bool} {root : Path}
      {recording : Bool} {manifest : Manifest} {after : State}
      (mayEnd : (Generator.create shape backends parallel).MayEnd sink root recording before
        (.ok manifest) after) :
      Succeeds sink before (.generation shape backends parallel root recording) after

end Operation

/-- Some steps succeed one after another and lead from a state to another one. -/
inductive Sink.Performs {State : Type} (sink : Sink State) :
    State → List Operation → State → Prop where
  | nil {state : State} : Performs sink state [] state
  | cons {operation : Operation} {rest : List Operation} {before middle after : State}
      (first : operation.Succeeds sink before middle) (later : Performs sink middle rest after) :
      Performs sink before (operation :: rest) after

namespace Disk

variable {initial disk next : Disk} {store : Store}

/-- After a completed run a disk is like a store that carried out the calls of the plan. -/
theorem Mirrors.generation (mirrors : disk.Mirrors store) {generator : Generator} {root : Path}
    (canonical : root.IsCanonical) {recording : Bool} {manifest : Manifest}
    (mayEnd : generator.MayEnd sink root recording disk (.ok manifest) next) :
    ∃ calls, calls.Perm (generator.plan root).calls ∧ next.Mirrors (store.after calls) ∧
      ∀ call ∈ calls, Fits call.path := by
  rcases canonical with ⟨names, plain, rfl⟩
  rcases mayEnd.exists_replays with ⟨_, _, events, perm, succeeded, replays⟩
  have events_canonical : ∀ event ∈ events, event.call.path.IsCanonical := by
    intro event event_mem
    have call_mem := perm.subset (List.mem_map_of_mem event_mem)
    exact Tree.isCanonical_of_mem_calls plain call_mem
  rcases mirrors.replays replays events_canonical succeeded with ⟨after, fits⟩
  refine ⟨_, perm, after, ?_⟩
  intro call call_mem
  rcases List.mem_map.mp call_mem with ⟨event, event_mem, rfl⟩
  exact fits event event_mem

/-- A step that succeeds on a disk succeeds on a store, and the disk still mirrors the store. -/
theorem Mirrors.succeeds (mirrors : disk.Mirrors store) {operation : Operation}
    (canonical : operation.IsCanonical) (succeeds : operation.Succeeds sink disk next) :
    (∃ stored, operation.Succeeds Store.sink store stored) ∧
      ∀ stored, operation.Succeeds Store.sink store stored → next.Mirrors stored := by
  cases succeeds with
  | request answer =>
      rename_i call
      have after := (mirrors.perform canonical answer).1
      refine ⟨⟨_, .request (Store.perform_sink store call)⟩, ?_⟩
      intro stored stored_succeeds
      cases stored_succeeds with
      | request stored_answer =>
          rw [Store.perform_sink] at stored_answer
          obtain rfl := (Prod.mk.inj stored_answer).2
          exact after
  | generation mayEnd =>
      rename_i shape backends parallel root recording manifest
      have valid := mayEnd.exists_replays.1
      rcases mirrors.generation canonical mayEnd with ⟨calls, perm, after, _⟩
      constructor
      · have own := (Generator.create shape backends parallel).mayEnd_run Store.sink root recording
          store
        rcases own.exists_perm valid with ⟨_, _, _, result_eq⟩
        rw [result_eq] at own
        exact ⟨_, .generation own⟩
      · intro stored stored_succeeds
        cases stored_succeeds with
        | generation stored_ends =>
            rcases stored_ends.exists_perm valid with ⟨stored_calls, stored_perm, rfl, _⟩
            exact after.agrees
              (store.agrees_after (Backend.nodup_distinct backends) perm stored_perm)

theorem Mirrors.performs (mirrors : disk.Mirrors store) {operations : List Operation}
    (canonical : ∀ operation ∈ operations, operation.IsCanonical)
    (performs : sink.Performs disk operations next) :
    (∃ stored, Store.sink.Performs store operations stored) ∧
      ∀ stored, Store.sink.Performs store operations stored → next.Mirrors stored := by
  induction performs generalizing store with
  | nil =>
      refine ⟨⟨_, .nil⟩, ?_⟩
      intro stored performs
      cases performs with
      | nil => exact mirrors
  | cons first _ ih =>
      rw [List.forall_mem_cons] at canonical
      rcases mirrors.succeeds canonical.1 first with ⟨⟨reached, stored_first⟩, first_mirrors⟩
      constructor
      · rcases (ih (first_mirrors reached stored_first) canonical.2).1 with ⟨stored, stored_later⟩
        exact ⟨stored, .cons stored_first stored_later⟩
      · intro stored performs
        cases performs with
        | cons other_first stored_later =>
            exact (ih (first_mirrors _ other_first) canonical.2).2 stored stored_later

end Disk

section

variable {initial disk : Disk} {shape : Shape} {backends : List Backend} {parallel recording : Bool}
  {root : Path}

open Generator (create)

/-- A completed run on a disk ends as every run on a store does. -/
theorem Generator.MayEnd.agrees (vacant : initial.IsVacant) (canonical : root.IsCanonical)
    {manifest : Manifest} (mayEnd : (create shape backends parallel).MayEnd Disk.sink root recording
      initial (.ok manifest) disk)
    {result : Except GenerateError Manifest} {store : Store}
    (stored : (create shape backends parallel).MayEnd Store.sink root recording .empty result
      store) : .ok manifest = result ∧ disk.Shows store := by
  rcases mayEnd.exists_replays with ⟨valid, manifest_eq, _⟩
  rcases stored.exists_perm valid with ⟨_, _, _, result_eq⟩
  rw [← manifest_eq] at result_eq
  subst result_eq
  have step : (Operation.generation shape backends parallel root recording).IsCanonical := canonical
  exact ⟨rfl, ((vacant.mirrors.succeeds step (.generation mayEnd)).2 _ (.generation stored)).shows⟩

end

theorem Sink.exists_perform_eq {State : Type} (sink : Sink State) {call : Call} {state : State}
    {result : Except IoError Unit} (answered : (sink.perform call state).1 = result) :
    ∃ next, sink.perform call state = (result, next) := ⟨_, Prod.ext answered rfl⟩

/-- From an empty working directory on, a disk shows what a store shows as long as every step
succeeds on the disk. A generator's run succeeds there exactly when no path is too long, and then
it ends as it does on a store. -/
theorem disk_agrees_store (initial : Disk) (vacant : initial.IsVacant) :
    (∀ operations disk, (∀ operation ∈ operations, operation.IsCanonical) →
      Disk.sink.Performs initial operations disk →
      (∃ store, Store.sink.Performs .empty operations store) ∧
        ∀ store, Store.sink.Performs .empty operations store → disk.Shows store) ∧
    ∀ shape backends parallel root, shape.validate = .ok () → root.IsCanonical →
      let generator := Generator.create shape backends parallel
      let short := ∀ call ∈ (generator.plan root).calls, Disk.Fits call.path
      (∀ recording, generator.AlwaysEnds Disk.sink root recording initial ∧
        ∀ result disk, generator.MayEnd Disk.sink root recording initial result disk →
          ((∃ manifest, result = .ok manifest) ↔ short) ∧
          (short → ∀ other store,
            generator.MayEnd Store.sink root recording .empty other store →
            result = other ∧ disk.Shows store)) ∧
      (short →
        (generator.generate Disk.sink root initial).1 =
            (generator.generate Store.sink root .empty).1 ∧
          (generator.generateWithManifest Disk.sink root initial).1 =
            (generator.generateWithManifest Store.sink root .empty).1) := by
  constructor
  · intro operations disk canonical performs
    rcases vacant.mirrors.performs canonical performs with ⟨possible, mirrors⟩
    exact ⟨possible, fun store stored => (mirrors store stored).shows⟩
  · intro shape backends parallel root valid canonical generator short
    have completed : short → ∀ {recording result disk},
        generator.MayEnd Disk.sink root recording initial result disk →
        ∃ manifest, result = .ok manifest := by
      intro fits recording result disk mayEnd
      rcases canonical with ⟨names, plain, rfl⟩
      exact mayEnd.exists_eq_ok_of_fits plain fits valid vacant
    have agrees : short → ∀ {recording result disk},
        generator.MayEnd Disk.sink root recording initial result disk →
        ∀ other store, generator.MayEnd Store.sink root recording .empty other store →
          result = other ∧ disk.Shows store := by
      intro fits recording result disk mayEnd other store stored
      rcases completed fits mayEnd with ⟨manifest, rfl⟩
      exact mayEnd.agrees vacant canonical stored
    have own : short → ∀ recording, (generator.run Disk.sink root recording initial).1 =
        (generator.run Store.sink root recording .empty).1 := fun fits recording =>
      (agrees fits (generator.mayEnd_run Disk.sink root recording initial) _ _
        (generator.mayEnd_run Store.sink root recording .empty)).1
    refine ⟨?_, ?_⟩
    · intro recording
      refine ⟨generator.alwaysEnds Disk.sink root recording initial, ?_⟩
      intro result disk mayEnd
      refine ⟨⟨?_, fun fits => completed fits mayEnd⟩, fun fits => agrees fits mayEnd⟩
      rintro ⟨manifest, rfl⟩ call call_mem
      rcases vacant.mirrors.generation canonical mayEnd with ⟨calls, perm, _, fits⟩
      exact fits call (perm.symm.subset call_mem)
    · intro fits
      exact ⟨congrArg (Except.map Manifest.summary) (own fits false), own fits true⟩

theorem disk_agrees_store_tree_with_notes :
    let operations : List Operation := [.generation ⟨1, 0, 1⟩ [.cmake] true ⟨"out/tree"⟩ true,
      .request (.writeFile ⟨"out/notes"⟩ "text")]
    (Disk.empty "work").IsVacant ∧ Shape.validate ⟨1, 0, 1⟩ = .ok () ∧
      (∀ operation ∈ operations, operation.IsCanonical) ∧
      (∀ call ∈ ((Generator.create ⟨1, 0, 1⟩ [.cmake] true).plan ⟨"out/tree"⟩).calls,
        Disk.Fits call.path) ∧
      ∃ disk store, Disk.sink.Performs (.empty "work") operations disk ∧
        Store.sink.Performs .empty operations store ∧ disk.Shows store := by
  intro operations
  have vacant := Disk.isVacant_empty "work"
  have valid : Shape.validate ⟨1, 0, 1⟩ = .ok () := rfl
  have root_canonical : (⟨"out/tree"⟩ : Path).IsCanonical :=
    ⟨["out", "tree"], by decide +kernel, by decide +kernel⟩
  have canonical : ∀ operation ∈ operations, operation.IsCanonical := by
    intro operation operation_mem
    rcases List.mem_pair.mp operation_mem with rfl | rfl
    · exact root_canonical
    · exact ⟨["out", "notes"], by decide +kernel, by decide +kernel⟩
  have fits : ∀ call ∈ ((Generator.create ⟨1, 0, 1⟩ [.cmake] true).plan ⟨"out/tree"⟩).calls,
      Disk.Fits call.path := by
    decide +kernel
  rcases disk_agrees_store (.empty "work") vacant with ⟨steps, runs⟩
  have performs : ∃ disk, Disk.sink.Performs (.empty "work") operations disk := by
    have own := (Generator.create ⟨1, 0, 1⟩ [.cmake] true).mayEnd_run Disk.sink ⟨"out/tree"⟩ true
      (.empty "work")
    rcases (((runs _ _ _ _ valid root_canonical).1 true).2 _ _ own).1.mpr fits with
      ⟨manifest, completed⟩
    rw [completed] at own
    have written : (Disk.sink.perform (.writeFile ⟨"out/notes"⟩ "text")
        ((Generator.create ⟨1, 0, 1⟩ [.cmake] true).run Disk.sink ⟨"out/tree"⟩ true
          (.empty "work")).2).1 = .ok () := by
      decide +kernel
    rcases Disk.sink.exists_perform_eq written with ⟨disk, answer⟩
    exact ⟨disk, .cons (.generation own) (.cons (.request answer) .nil)⟩
  rcases performs with ⟨disk, performs⟩
  rcases steps _ disk canonical performs with ⟨⟨store, stored⟩, shows⟩
  exact ⟨vacant, valid, canonical, fits, disk, store, performs, stored, shows store stored⟩

end BenchTree

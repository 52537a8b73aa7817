import BenchTree.Proofs.Parallel.History
import BenchTree.Proofs.Store.Calls

/-!
# All calls of a run

The calls made in a run are, up to order, a part of the calls of the generator's plan, and all of
them when the run ends without failure. Then the artifacts noted are those of the plan in the
plan's order, whatever the order of the calls was. A run ends without failure exactly when every
call that was made was carried out. Since no two calls of the plan name one place in the same way,
neither do two calls of a run. A store refuses nothing, so there a run always ends well.
-/

namespace BenchTree

namespace Tree

/-- No two calls of a tree's plan make one directory or write to one place. -/
theorem pairwise_apart_calls_plan (root : Path) (shape : Shape) {backends : List Backend}
    (distinct : backends.Nodup) : (plan root shape backends).calls.Pairwise Call.Apart := by
  apply (calls_plan_perm root shape backends).symm.pairwise _ fun apart => apart.symm
  rw [List.pairwise_append]
  refine ⟨?_, ?_, ?_⟩
  · rw [List.pairwise_map]
    exact pairwise_directories root shape.modules
  · rw [List.pairwise_map]
    exact (Artifact.nodup_ofTree distinct shape).imp fun different same =>
      different (Artifact.eq_of_same_path same)
  · intro made made_mem written written_mem
    rcases List.mem_map.mp made_mem with ⟨directory, _, rfl⟩
    rcases List.mem_map.mp written_mem with ⟨artifact, _, rfl⟩
    trivial

theorem pairwise_apart_of_perm {root : Path} {shape : Shape} {backends : List Backend}
    (distinct : backends.Nodup) {calls : List Call}
    (perm : calls.Perm (plan root shape backends).calls) : calls.Pairwise Call.Apart :=
  perm.symm.pairwise (pairwise_apart_calls_plan root shape distinct) fun apart => apart.symm

end Tree

/-- A list is arranged by a key that takes finitely many values. -/
theorem perm_flatMap_filter {Item Key : Type} [DecidableEq Key] (key : Item → Key)
    {keys : List Key} (distinct : keys.Nodup) {items : List Item}
    (covered : ∀ item ∈ items, key item ∈ keys) :
    items.Perm (keys.flatMap fun value => items.filter fun item => key item = value) := by
  induction keys generalizing items with
  | nil =>
      have empty : items = [] := List.eq_nil_iff_forall_not_mem.mpr fun item item_mem =>
        List.not_mem_nil (covered item item_mem)
      simp [empty]
  | cons value rest ih =>
      rw [List.nodup_cons] at distinct
      rw [List.flatMap_cons]
      refine (List.filter_append_perm (fun item => key item = value) items).symm.trans ?_
      apply List.Perm.append_left
      have others_covered : ∀ item ∈ items.filter fun item => !(key item = value),
          key item ∈ rest := by
        intro item item_mem
        rw [List.mem_filter] at item_mem
        simpa [show key item ≠ value by simpa using item_mem.2] using covered item item_mem.1
      refine (ih distinct.2 others_covered).trans (List.Perm.of_eq ?_)
      apply List.flatMap_congr
      intro other other_mem
      have different : other ≠ value := by
        rintro rfl
        exact distinct.1 other_mem
      rw [List.filter_filter]
      apply List.filter_congr
      intro item _
      by_cases same : key item = other <;> simp [same, different]

/-- A sink answers the calls of some events, one after another, as the events say. -/
inductive Sink.Replays {State : Type} (sink : Sink State) (initial : State) :
    List Event → State → Prop where
  | nil : Replays sink initial [] initial
  | snoc {events : List Event} {event : Event} {state next : State}
      (earlier : Replays sink initial events state)
      (answer : sink.perform event.call state = (event.result, next)) :
      Replays sink initial (events ++ [event]) next

theorem Task.Step.replays {State : Type} {sink : Sink State} {recording : Bool} {author : Thread}
    {task next : Task} {initial state nextState : State} {events made : List Event}
    (step : Task.Step sink recording author task state made next nextState)
    (replays : sink.Replays initial events state) :
    sink.Replays initial (events ++ made) nextState := by
  cases step with
  | note => simpa using replays
  | call answer => exact replays.snoc answer
  | failure answer => exact replays.snoc answer
  | finish => simpa using replays

/-- The threads of a run, in the order of their parts. -/
def Thread.all (modules : Nat) : List Thread :=
  .opening :: (List.range modules).map .module ++ [.closing]

theorem Thread.nodup_all (modules : Nat) : (all modules).Nodup := by
  simp only [all, List.cons_append, List.nodup_cons, List.nodup_append, List.mem_append,
    List.mem_map]
  refine ⟨by simp, List.nodup_range.map (fun _ _ same => Thread.module.inj same), by simp, by simp⟩

/-- The files of a module are counted while they are written: two for each, up to the largest
word, whatever was written before. -/
theorem eq_of_writeFiles {State : Type} {sink : Sink State} {directory : Path} {module count : Nat}
    {shape : Shape} {recording : Bool} {state : State}
    (written : (writeFiles sink directory module shape recording state).result = .ok count) :
    count = Word.saturate (Tree.filesWritten shape) := by
  rcases ended : ((Tree.filesPlan directory module shape).perform sink recording .empty
      state).result with problem | _
  · simp [writeFiles, ended, Except.map] at written
  · rw [writeFiles, ended, Plan.notes_perform _ _ _ _ _ ended, Plan.sources_notes_empty,
      Tree.sum_counts_filesPlan] at written
    exact (Except.ok.inj written).symm

/-- A generator's plan counts the headers and sources of all modules, up to the largest word. -/
theorem Generator.sources_notes_plan (generator : Generator) (root : Path) (recording : Bool) :
    ((generator.plan root).notes recording .empty).sources =
      Word.saturatingMul generator.shape.modules (Tree.filesWritten generator.shape) := by
  rw [Plan.sources_notes_empty, plan, Tree.sum_counts_plan, Word.saturatingMul]

/-- Whether artifacts are noted or not, the headers and sources are counted. -/
theorem Generator.summary_manifest (generator : Generator) (root : Path) (recording : Bool) :
    (generator.manifest root ((generator.plan root).notes recording .empty)).summary =
      generator.summary (Word.saturatingMul generator.shape.modules
        (Tree.filesWritten generator.shape)) := by
  rw [manifest, sources_notes_plan]

namespace Job

variable {State : Type} {job : Job State} {situation : Situation State}

theorem flatMap_calls (job : Job State) :
    (Thread.all job.modules).flatMap (fun thread => (job.plan thread).calls) =
      (job.generator.plan job.root).calls := by
  simp [Thread.all, Generator.plan, Tree.calls_plan, plan, modules, List.flatMap_map]

namespace Valid

theorem mem_all (valid : job.Valid situation) {thread : Thread}
    (begun : situation.tasks thread ≠ .waiting) : thread ∈ Thread.all job.modules := by
  cases thread with
  | opening => simp [Thread.all]
  | module number => simp [Thread.all, (valid.due (.module number) begun).1]
  | closing => simp [Thread.all]

theorem author_mem (valid : job.Valid situation) {event : Event}
    (event_mem : event ∈ situation.events) : event.author ∈ Thread.all job.modules :=
  valid.mem_all (valid.ne_waiting event_mem)

theorem events_perm (valid : job.Valid situation) :
    situation.events.Perm ((Thread.all job.modules).flatMap situation.by) :=
  perm_flatMap_filter Event.author (Thread.nodup_all job.modules)
    fun _ event_mem => valid.author_mem event_mem

/-- Up to order, the calls of a run are among those of the plan. -/
theorem calls_subperm (valid : job.Valid situation) :
    (situation.events.map Event.call).Subperm (job.generator.plan job.root).calls := by
  refine ⟨((Thread.all job.modules).flatMap situation.by).map Event.call,
    (valid.events_perm.map Event.call).symm, ?_⟩
  rw [← flatMap_calls, List.map_flatMap]
  induction Thread.all job.modules with
  | nil => exact List.Sublist.refl []
  | cons thread rest ih =>
      exact (valid.accounts thread).isPrefix_calls.sublist.append ih

theorem pairwise_apart (valid : job.Valid situation) (distinct : job.generator.backends.Nodup) :
    situation.events.Pairwise fun earlier later => earlier.call.Apart later.call := by
  rcases valid.calls_subperm with ⟨arranged, perm, sublist⟩
  rw [← List.pairwise_map]
  exact perm.pairwise ((Tree.pairwise_apart_calls_plan job.root job.generator.shape
    distinct).sublist sublist) fun apart => apart.symm

theorem finished (valid : job.Valid situation)
    (closed : (situation.tasks .closing).IsFinished) :
    ∀ thread ∈ Thread.all job.modules, (situation.tasks thread).IsFinished := by
  have begun : situation.tasks .closing ≠ .waiting := by
    rcases closed with ⟨notes, closed⟩
    simp [closed]
  rcases valid.due .closing begun with ⟨opened, finished⟩
  intro thread thread_mem
  cases thread with
  | opening => exact opened
  | module number => exact finished number (by simpa [Thread.all] using thread_mem)
  | closing => exact closed

/-- A run that ends without failure makes all calls of the plan. -/
theorem calls_perm (valid : job.Valid situation)
    (closed : (situation.tasks .closing).IsFinished) :
    (situation.events.map Event.call).Perm (job.generator.plan job.root).calls := by
  have made : (Thread.all job.modules).flatMap
        (fun thread => (situation.by thread).map Event.call) =
      (Thread.all job.modules).flatMap fun thread => (job.plan thread).calls := by
    apply List.flatMap_congr
    intro thread thread_mem
    have finished := valid.finished closed thread thread_mem
    rw [(finished.accounts (valid.accounts thread)).1]
    simp [Event.carriedOut, Function.comp_def]
  rw [← flatMap_calls, ← made, ← List.map_flatMap]
  exact valid.events_perm.map Event.call

/-- In a run that ends without failure every thread notes what its plan does. -/
theorem notes_task (valid : job.Valid situation)
    (closed : (situation.tasks .closing).IsFinished) {thread : Thread}
    (thread_mem : thread ∈ Thread.all job.modules) :
    (situation.tasks thread).notes = (job.plan thread).notes job.recording .empty :=
  ((valid.finished closed thread thread_mem).accounts (valid.accounts thread)).2

theorem outputs_eq (valid : job.Valid situation)
    (closed : (situation.tasks .closing).IsFinished) :
    job.outputs situation = (List.range job.modules).map
      fun module => (job.plan (.module module)).notes job.recording .empty := by
  apply List.map_congr_left
  intro module module_mem
  exact valid.notes_task closed (by simpa [Thread.all] using module_mem)

/-- The artifacts noted in a run that ends without failure are those of the plan, in its order. -/
theorem toList_artifacts_notes (valid : job.Valid situation)
    (closed : (situation.tasks .closing).IsFinished) :
    (job.notes situation).artifacts.toList =
      (job.generator.plan job.root).noted job.recording := by
  have opening := valid.notes_task closed (List.mem_cons_self : .opening ∈ Thread.all job.modules)
  have closing := valid.notes_task closed (List.mem_concat_self : .closing ∈ Thread.all job.modules)
  simp only [notes, Array.toList_append, Array.toList_appendList, valid.outputs_eq closed,
    List.flatMap_map, opening, closing, Plan.toList_artifacts_notes]
  cases job.recording with
  | false => simp [Plan.noted, Notes.empty]
  | true =>
      simp [Plan.noted, Notes.empty, Generator.plan, Tree.plan_eq_append, Plan.artifacts_each, plan,
        modules, List.range_eq_range']

/-- What the workers count in a run that ends without failure adds up to what the plan counts. -/
theorem sources_notes (valid : job.Valid situation)
    (closed : (situation.tasks .closing).IsFinished) :
    (job.notes situation).sources =
      Word.saturatingMul job.modules (Tree.filesWritten job.generator.shape) := by
  have counted : ∀ module, ((job.plan (.module module)).notes job.recording .empty).sources =
      Word.saturate (Tree.filesWritten job.generator.shape) := by
    intro module
    rw [Plan.sources_notes_empty, plan, Tree.sum_counts_modulePlan]
  have counts : (job.outputs situation).map Notes.sources =
      List.replicate job.modules (Word.saturate (Tree.filesWritten job.generator.shape)) := by
    simp [valid.outputs_eq closed, Function.comp_def, counted]
  calc (job.notes situation).sources
    _ = ((job.outputs situation).map Notes.sources).foldl Word.saturatingAdd (Word.saturate 0) :=
        List.foldl_map.symm
    _ = Word.saturate (job.modules * Word.saturate (Tree.filesWritten job.generator.shape)) := by
        rw [counts, Word.foldl_saturatingAdd, List.sum_replicate, Nat.zero_add, smul_eq_mul]
    _ = Word.saturatingMul job.modules (Tree.filesWritten job.generator.shape) := by
        rw [Nat.mul_comm, Word.saturate_mul, Nat.mul_comm, Word.saturatingMul]

/-- A run that ends without failure notes what the plan does. -/
theorem notes_eq (valid : job.Valid situation)
    (closed : (situation.tasks .closing).IsFinished) :
    job.notes situation = (job.generator.plan job.root).notes job.recording .empty := by
  ext1
  · apply Array.toList_inj.mp
    rw [valid.toList_artifacts_notes closed, Plan.toList_artifacts_notes]
    rfl
  · rw [valid.sources_notes closed, job.generator.sources_notes_plan]
    rfl

theorem exists_failed_event (valid : job.Valid situation) {thread : Thread} {problem : IoError}
    (failed : situation.tasks thread = .failed problem) :
    ∃ event ∈ situation.events, event.result = .error problem := by
  have accounts := valid.accounts thread
  rw [failed] at accounts
  rcases accounts with ⟨calls, call, _, made, _⟩
  have event_mem : (⟨thread, call, .error problem⟩ : Event) ∈ situation.by thread := by
    simp [made]
  exact ⟨_, (Situation.mem_by.mp event_mem).1, rfl⟩

end Valid

theorem Ends.isFinished (ends : job.Ends situation (.ok ())) :
    (situation.tasks .closing).IsFinished := by
  cases ends with
  | finished closed => exact closed

/-- A run ends without failure exactly when every call was carried out. -/
theorem Ends.ok_iff {ending : Except IoError Unit} (ends : job.Ends situation ending)
    (valid : job.Valid situation) :
    ending = .ok () ↔ ∀ event ∈ situation.events, event.result = .ok () := by
  have failure : ∀ {thread problem}, situation.tasks thread = .failed problem →
      (Except.error problem = .ok () ↔ ∀ event ∈ situation.events, event.result = .ok ()) := by
    intro thread problem failed
    rcases valid.exists_failed_event failed with ⟨event, event_mem, event_failed⟩
    constructor
    · intro same
      cases same
    · intro succeeded
      rw [succeeded event event_mem] at event_failed
      cases event_failed
  cases ends with
  | openingFailed failed => exact failure failed
  | moduleFailed _ failed _ => exact failure failed
  | closingFailed failed => exact failure failed
  | finished closed =>
      refine ⟨fun _ event event_mem => ?_, fun _ => rfl⟩
      have finished := valid.finished closed event.author (valid.author_mem event_mem)
      have event_by := Situation.mem_by.mpr ⟨event_mem, rfl⟩
      rw [(finished.accounts (valid.accounts event.author)).1] at event_by
      exact Task.result_of_mem_carriedOut event_by

theorem Reaches.replays {initial : State} (reaches : job.Reaches initial situation) :
    job.sink.Replays initial situation.events situation.state := by
  induction reaches with
  | refl => exact .nil
  | tail _ step ih =>
      cases step with
      | advance step => exact step.replays ih
      | begin => exact ih
      | skip => exact ih
      | join => exact ih

end Job

/-- A completed run has made all calls of the plan, and its manifest is that of the plan. -/
theorem Generator.MayEnd.exists_replays {State : Type} {sink : Sink State} {generator : Generator}
    {root : Path} {recording : Bool} {initial final : State} {manifest : Manifest}
    (mayEnd : generator.MayEnd sink root recording initial (.ok manifest) final) :
    generator.shape.validate = .ok () ∧
      manifest = generator.manifest root ((generator.plan root).notes recording .empty) ∧
      ∃ events, (events.map Event.call).Perm (generator.plan root).calls ∧
        (∀ event ∈ events, event.result = .ok ()) ∧ sink.Replays initial events final := by
  cases valid : generator.shape.validate with
  | error problem =>
      simp only [MayEnd, valid] at mayEnd
      cases mayEnd.1
  | ok _ =>
      simp only [MayEnd, valid] at mayEnd
      rcases mayEnd with ⟨situation, ending, reaches, ends, result_eq, rfl⟩
      cases ending with
      | error problem => cases result_eq
      | ok _ =>
          have succeeded := (ends.ok_iff reaches.valid).mp rfl
          cases ends with
          | finished closed =>
              refine ⟨rfl, ?_, situation.events, reaches.valid.calls_perm closed, succeeded,
                reaches.replays⟩
              rw [conclude, reaches.valid.notes_eq closed] at result_eq
              exact Except.ok.inj result_eq

theorem Sink.Replays.eq_after {initial final : Store} {events : List Event}
    (replays : Store.sink.Replays initial events final) :
    final = initial.after (events.map Event.call) := by
  induction replays with
  | nil => rfl
  | snoc _ answer ih =>
      rw [Store.perform_sink, Prod.mk.injEq] at answer
      rw [List.map_append, Store.after_append, ← ih, ← answer.2]
      rfl

theorem Sink.Replays.result_eq_ok {initial final : Store} {events : List Event}
    (replays : Store.sink.Replays initial events final) :
    ∀ event ∈ events, event.result = .ok () := by
  induction replays with
  | nil => simp
  | snoc _ answer ih =>
      rw [Store.perform_sink, Prod.mk.injEq] at answer
      intro event event_mem
      rcases List.mem_append.mp event_mem with event_mem | event_mem
      · exact ih event event_mem
      · rw [List.mem_singleton.mp event_mem, ← answer.1]

/-- On a store a run carries out all calls of the plan, and its result does not depend on their
order. -/
theorem Generator.MayEnd.exists_perm {generator : Generator} {root : Path} {recording : Bool}
    {store final : Store} {result : Except GenerateError Manifest}
    (valid : generator.shape.validate = .ok ())
    (mayEnd : generator.MayEnd Store.sink root recording store result final) :
    ∃ calls, calls.Perm (generator.plan root).calls ∧ final = store.after calls ∧
      result = .ok (generator.manifest root ((generator.plan root).notes recording .empty)) := by
  simp only [MayEnd, valid] at mayEnd
  rcases mayEnd with ⟨situation, ending, reaches, ends, rfl, rfl⟩
  have replays := reaches.replays
  have succeeded := (ends.ok_iff reaches.valid).mpr replays.result_eq_ok
  subst succeeded
  cases ends with
  | finished closed =>
      refine ⟨situation.events.map Event.call, reaches.valid.calls_perm closed,
        replays.eq_after, ?_⟩
      rw [conclude, reaches.valid.notes_eq closed]

end BenchTree

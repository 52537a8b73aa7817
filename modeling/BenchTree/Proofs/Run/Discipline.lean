import BenchTree.Proofs.Parallel.Calls
import BenchTree.Proofs.Parallel.Schedule

/-!
# The discipline of a run's calls

This file says what can be relied on while a run is under way, in whatever order the workers take
their turns and whichever calls are refused. Directories are made before anything is written into
them, nothing is written twice, and nothing is touched beside the tree. A description of the
executable is written only when everything in the modules is, so on a store that was empty it
vouches for the rest of the tree.
-/

namespace BenchTree

/-- The path that a call is about. -/
def Call.path : Call → Path
  | .createDirectory directory => directory
  | .writeFile path _ => path

/-- The thread that writes an artifact. -/
def Artifact.author : Artifact → Thread
  | .main => .opening
  | .header module _ => .module module
  | .source module _ => .module module
  | .moduleDescription module _ => .module module
  | .rootDescription _ => .closing

theorem Artifact.Belongs.author_lt {shape : Shape} {backends : List Backend} {artifact : Artifact}
    (belongs : artifact.Belongs shape backends) {module : Nat}
    (author_eq : artifact.author = .module module) : module < shape.modules := by
  cases artifact <;> cases author_eq <;> exact belongs.1

/-- The directory that an artifact lies in. -/
def Artifact.directory (root : Path) (artifact : Artifact) : Path :=
  match artifact.author with
  | .module number => Tree.modulePath root number
  | _ => root

theorem Artifact.components_path_directory (root : Path) (artifact : Artifact) :
    ∃ name, (artifact.path root).components =
      (artifact.directory root).components ++ [.name name] := by
  cases artifact <;>
    simp [components_path, directory, author, names, components_modulePath]

namespace Job

variable {State : Type} {job : Job State} {situation : Situation State}

/-- A thread writes its own artifacts only. -/
theorem exists_artifact_of_mem {thread : Thread} {path : Path} {text : String}
    (written : .writeFile path text ∈ (job.plan thread).calls) :
    ∃ artifact : Artifact, artifact.author = thread ∧ artifact.path job.root = path := by
  cases thread with
  | opening =>
      rw [plan, Tree.calls_openingPlan] at written
      simp only [List.mem_cons, List.not_mem_nil, or_false, reduceCtorEq, false_or] at written
      exact ⟨.main, rfl, (Call.writeFile.inj written).1.symm⟩
  | module number =>
      rw [plan, Tree.calls_modulePlan] at written
      simp only [List.mem_cons, reduceCtorEq, false_or, List.mem_map,
        Artifact.mem_ofModule] at written
      rcases written with ⟨artifact, belongs, same⟩
      refine ⟨artifact, ?_, (Call.writeFile.inj same).1⟩
      rcases belongs with ⟨file, _, rfl | rfl⟩ | ⟨backend, _, rfl⟩ <;> rfl
  | closing =>
      rw [plan, Tree.calls_rootDescriptionsPlan, List.map_map, List.mem_map] at written
      rcases written with ⟨backend, _, same⟩
      exact ⟨.rootDescription backend, rfl, (Call.writeFile.inj same).1⟩

/-- The thread of an artifact of the tree writes it. -/
theorem call_mem_plan (job : Job State) {artifact : Artifact}
    (belongs : artifact.Belongs job.generator.shape job.generator.backends) :
    artifact.call job.root job.generator.shape ∈ (job.plan artifact.author).calls := by
  cases artifact with
  | main => simp [Artifact.author, plan, Tree.calls_openingPlan]
  | rootDescription backend =>
      rw [Artifact.author, plan, Tree.calls_rootDescriptionsPlan]
      exact List.mem_map_of_mem (List.mem_map_of_mem belongs)
  | header module file =>
      rw [Artifact.author, plan, Tree.calls_modulePlan]
      exact .tail _ (List.mem_map_of_mem (Artifact.mem_ofModule.mpr
        (.inl ⟨file, belongs.2, .inl rfl⟩)))
  | source module file =>
      rw [Artifact.author, plan, Tree.calls_modulePlan]
      exact .tail _ (List.mem_map_of_mem (Artifact.mem_ofModule.mpr
        (.inl ⟨file, belongs.2, .inr rfl⟩)))
  | moduleDescription module backend =>
      rw [Artifact.author, plan, Tree.calls_modulePlan]
      exact .tail _ (List.mem_map_of_mem (Artifact.mem_ofModule.mpr
        (.inr ⟨backend, belongs.2, rfl⟩)))

namespace Valid

variable {before after : List Event} {event : Event}

/-- What the author of a call did before: all of it was carried out, and it begins the plan. -/
theorem split (valid : job.Valid situation)
    (events_eq : situation.events = before ++ event :: after) :
    (∀ earlier ∈ before, earlier.author = event.author → earlier.result = .ok ()) ∧
      ∃ rest, (job.plan event.author).calls =
        (before.filter fun earlier => earlier.author = event.author).map Event.call
          ++ event.call :: rest := by
  have accounts := valid.accounts event.author
  rw [Situation.by, events_eq, List.filter_append, List.filter_cons_of_pos (by simp)] at accounts
  rcases accounts.split with ⟨succeeded, begins⟩
  refine ⟨?_, begins⟩
  intro earlier earlier_mem same
  exact succeeded earlier (List.mem_filter.mpr ⟨earlier_mem, by simpa using same⟩)

/-- The first call of a plan was carried out before any other one is made. -/
theorem first_mem_before (valid : job.Valid situation)
    (events_eq : situation.events = before ++ event :: after) {first : Call} {rest : List Call}
    (plan_calls : (job.plan event.author).calls = first :: rest) (other : event.call ≠ first) :
    ⟨event.author, first, .ok ()⟩ ∈ before := by
  rcases valid.split events_eq with ⟨succeeded, later, begins⟩
  rw [plan_calls] at begins
  cases own : before.filter fun earlier => earlier.author = event.author with
  | nil =>
      rw [own] at begins
      exact absurd (List.cons.inj begins).1.symm other
  | cons earliest others =>
      rw [own] at begins
      have earliest_mem : earliest ∈ before.filter fun earlier =>
          earlier.author = event.author := by
        rw [own]
        exact List.mem_cons_self
      rw [List.mem_filter, decide_eq_true_eq] at earliest_mem
      rcases earliest_mem with ⟨earliest_mem, author_eq⟩
      have call_eq : first = earliest.call := (List.cons.inj begins).1
      rw [call_eq, ← author_eq, ← succeeded earliest earliest_mem author_eq]
      exact earliest_mem

/-- What a finished thread of an earlier part had to do was done before. -/
theorem mem_before_of_finished (valid : job.Valid situation)
    (events_eq : situation.events = before ++ event :: after) {thread : Thread}
    (finished : (situation.tasks thread).IsFinished) (rank_lt : thread.rank < event.author.rank)
    {call : Call} (call_mem : call ∈ (job.plan thread).calls) :
    ⟨thread, call, .ok ()⟩ ∈ before := by
  have by_mem : (⟨thread, call, .ok ()⟩ : Event) ∈ situation.by thread := by
    rw [(finished.accounts (valid.accounts thread)).1]
    exact List.mem_map.mpr ⟨call, call_mem, rfl⟩
  have event_mem := (Situation.mem_by.mp by_mem).1
  have ordered := valid.ordered
  rw [events_eq] at event_mem ordered
  rcases List.mem_append.mp event_mem with event_mem | event_mem
  · exact event_mem
  · rcases List.mem_cons.mp event_mem with same | event_mem
    · rw [← same] at rank_lt
      exact absurd rank_lt (lt_irrefl _)
    · have behind := (List.pairwise_cons.mp (List.pairwise_append.mp ordered).2.1).1 _ event_mem
      exact absurd behind (Nat.not_le.mpr rank_lt)

theorem call_mem_plan (valid : job.Valid situation) {event : Event}
    (event_mem : event ∈ situation.events) : event.call ∈ (job.plan event.author).calls :=
  (valid.accounts event.author).isPrefix_calls.subset
    (List.mem_map_of_mem (Situation.mem_by.mpr ⟨event_mem, rfl⟩))

/-- The directory of an artifact was made before the artifact is written. -/
theorem directory_mem_before (valid : job.Valid situation)
    (events_eq : situation.events = before ++ event :: after) {artifact : Artifact} {text : String}
    (call_eq : event.call = .writeFile (artifact.path job.root) text)
    (author_eq : artifact.author = event.author) :
    ∃ author, ⟨author, .createDirectory (artifact.directory job.root), .ok ()⟩ ∈ before := by
  have other : ∀ directory, event.call ≠ .createDirectory directory := by
    simp [call_eq]
  cases author : event.author with
  | opening =>
      have plan_calls : (job.plan event.author).calls =
          .createDirectory job.root :: [Artifact.main.call job.root job.generator.shape] := by
        rw [author, plan, Tree.calls_openingPlan]
      rw [Artifact.directory, author_eq, author]
      exact ⟨_, valid.first_mem_before events_eq plan_calls (other _)⟩
  | module number =>
      have plan_calls := Tree.calls_modulePlan job.root job.generator.shape
        job.generator.backends number
      rw [Artifact.directory, author_eq, author]
      exact ⟨_, valid.first_mem_before events_eq (by rw [author]; exact plan_calls) (other _)⟩
  | closing =>
      have event_mem : event ∈ situation.events := by simp [events_eq]
      have begun := valid.ne_waiting event_mem
      rw [author] at begun
      rw [Artifact.directory, author_eq, author]
      exact ⟨_, valid.mem_before_of_finished events_eq (valid.due .closing begun).1
        (by simp [author, Thread.rank]) (by simp [plan, Tree.calls_openingPlan])⟩

end Valid

/-- What can be relied on in a situation of a run. -/
structure Disciplined (job : Job State) (situation : Situation State) : Prop where
  /-- Before a file is written, the directory that it lies in was made. -/
  parentMade : ∀ before event after path text, situation.events = before ++ event :: after →
    event.call = .writeFile path text → ∃ author directory name,
      ⟨author, .createDirectory directory, .ok ()⟩ ∈ before ∧
        path.components = directory.components ++ [.name name]
  /-- No place is written to twice. -/
  writtenOnce : situation.events.Pairwise fun earlier later =>
    ∀ path text otherPath otherText, earlier.call = .writeFile path text →
      later.call = .writeFile otherPath otherText → ¬path.Same otherPath
  /-- Every path leads from the root by ordinary names. -/
  inside : ∀ event ∈ situation.events, ∃ names : List String,
    (∀ name ∈ names, Path.IsOrdinary name) ∧
      event.call.path.components = job.root.components ++ names.map .name
  /-- A worker makes the calls of its module in order, without leaving out any. -/
  inOrder : ∀ module, (situation.by (.module module)).map Event.call <+:
    (Tree.modulePlan job.root job.generator.shape job.generator.backends module).calls
  /-- The executable is described only when the root, the main source and all that belongs to the
  modules are there. -/
  describedLast : ∀ before event after backend path text,
    situation.events = before ++ event :: after → event.call = .writeFile path text →
    path.Same ((Artifact.rootDescription backend).path job.root) →
      (∀ call ∈ [.createDirectory job.root, Artifact.main.call job.root job.generator.shape],
        ⟨.opening, call, .ok ()⟩ ∈ before) ∧
      ∀ module < job.modules, ∀ call ∈ (Tree.modulePlan job.root job.generator.shape
        job.generator.backends module).calls, ⟨.module module, call, .ok ()⟩ ∈ before
  /-- A run that is over has succeeded if and only if each of its calls has. -/
  outcome : ∀ ending, job.Ends situation ending →
    ((∃ manifest, job.generator.conclude job.root ending (job.notes situation) =
      .ok manifest) ↔ ∀ event ∈ situation.events, event.result = .ok ())

theorem Valid.disciplined (valid : job.Valid situation)
    (distinct : job.generator.backends.Nodup) : job.Disciplined situation := by
  have authored : ∀ {event : Event} {path : Path} {text : String}, event ∈ situation.events →
      event.call = .writeFile path text →
      ∃ artifact : Artifact, artifact.author = event.author ∧ artifact.path job.root = path := by
    intro event path text event_mem call_eq
    have call_mem := valid.call_mem_plan event_mem
    rw [call_eq] at call_mem
    exact exists_artifact_of_mem call_mem
  constructor
  · intro before event after path text events_eq call_eq
    rcases authored (by simp [events_eq]) call_eq with ⟨artifact, author_eq, rfl⟩
    rcases artifact.components_path_directory job.root with ⟨name, components_eq⟩
    rcases valid.directory_mem_before events_eq call_eq author_eq with ⟨author, made⟩
    exact ⟨author, _, name, made, components_eq⟩
  · apply (valid.pairwise_apart distinct).imp
    intro earlier later apart path text otherPath otherText earlier_eq later_eq
    rw [earlier_eq, later_eq] at apart
    exact apart
  · intro event event_mem
    have call_mem := valid.calls_subperm.subset (List.mem_map_of_mem event_mem)
    rw [Generator.plan, Tree.mem_calls_plan] at call_mem
    rcases call_mem with ⟨directory, directory_mem, call_eq⟩ | ⟨artifact, _, call_eq⟩
    · rw [call_eq, Call.path]
      rcases List.mem_cons.mp directory_mem with rfl | directory_mem
      · exact ⟨[], by simp, by simp⟩
      · rcases List.mem_map.mp directory_mem with ⟨module, _, rfl⟩
        refine ⟨[Source.moduleDirectory module], ?_, Artifact.components_modulePath job.root module⟩
        simpa using Source.isOrdinary_moduleDirectory module
    · rw [call_eq]
      exact ⟨artifact.names, fun _ name_mem => artifact.isOrdinary_of_mem_names name_mem,
        artifact.components_path job.root⟩
  · intro module
    exact (valid.accounts (.module module)).isPrefix_calls
  · intro before event after backend path text events_eq call_eq same
    have event_mem : event ∈ situation.events := by simp [events_eq]
    rcases authored event_mem call_eq with ⟨artifact, author_eq, rfl⟩
    have closing : event.author = .closing := by
      rw [← author_eq, Artifact.eq_of_same_path same, Artifact.author]
    have begun := valid.ne_waiting event_mem
    rw [closing] at begun
    rcases valid.due .closing begun with ⟨opened, finished⟩
    constructor
    · intro call call_mem
      apply valid.mem_before_of_finished events_eq opened
      · simp [closing, Thread.rank]
      · exact call_mem
    · intro module module_lt call call_mem
      apply valid.mem_before_of_finished events_eq (finished module module_lt)
      · simp [closing, Thread.rank]
      · exact call_mem
  · intro ending ends
    rw [← ends.ok_iff valid]
    cases ending with
    | error problem => simp [Generator.conclude]
    | ok _ => simp [Generator.conclude]

end Job

/-- The sink has carried the call out. -/
def Event.succeeded (event : Event) : Bool := event.result.isOk

/-- A store that refuses the calls of certain numbers, which leave it as it is. -/
def Store.refusing (refuse : Nat → Option IoError) : Sink (Nat × Store) where
  perform call := fun (number, store) =>
    match refuse number with
    | some problem => (.error problem, number + 1, store)
    | none => (.ok (), number + 1, store.carryOut call)

theorem Sink.Replays.snd_eq_after {refuse : Nat → Option IoError} {initial final : Nat × Store}
    {events : List Event} (replays : (Store.refusing refuse).Replays initial events final) :
    final.2 = initial.2.after ((events.filter Event.succeeded).map Event.call) := by
  induction replays with
  | nil => rfl
  | @snoc events event state next earlier answer ih =>
      rw [List.filter_append, List.map_append, Store.after_append, ← ih]
      simp only [Store.refusing] at answer
      split at answer
      · rw [Prod.mk.injEq] at answer
        have refused : ¬event.succeeded = true := by
          rw [Event.succeeded, ← answer.1]
          exact Bool.false_ne_true
        simp [List.filter_cons_of_neg refused, ← answer.2]
      · rw [Prod.mk.injEq] at answer
        have succeeded : event.succeeded = true := by
          rw [Event.succeeded, ← answer.1]
          rfl
        simp [List.filter_cons_of_pos succeeded, ← answer.2]

/-- On a store that was empty, a description of the executable vouches for everything else but the
other such descriptions. -/
theorem Job.Disciplined.complete {generator : Generator} {refuse : Nat → Option IoError}
    {root : Path} {recording : Bool} {situation : Situation (Nat × Store)}
    (disciplined : (⟨generator, Store.refusing refuse, root, recording⟩ : Job _).Disciplined
      situation)
    (apart : situation.events.Pairwise fun earlier later => earlier.call.Apart later.call)
    (replays : (Store.refusing refuse).Replays (0, .empty) situation.events situation.state)
    {backend : Backend} {found : String}
    (described : situation.state.2.get? ((Artifact.rootDescription backend).path root) =
      some found) :
    (∀ artifact : Artifact, artifact.Belongs generator.shape generator.backends →
      artifact.author ≠ .closing →
      situation.state.2.get? (artifact.path root) = some (artifact.text generator.shape)) ∧
    ∀ directory ∈ Tree.directories root generator.shape.modules,
      ∃ shown ∈ situation.state.2.directoryList, shown.Same directory := by
  rw [replays.snd_eq_after] at described ⊢
  have made_of_mem : ∀ {author call}, (⟨author, call, .ok ()⟩ : Event) ∈ situation.events →
      call ∈ (situation.events.filter Event.succeeded).map Event.call := by
    intro author call event_mem
    exact List.mem_map.mpr ⟨_, List.mem_filter.mpr ⟨event_mem, rfl⟩, rfl⟩
  have made_apart : ((situation.events.filter Event.succeeded).map Event.call).Pairwise
      Call.Apart := by
    rw [List.pairwise_map]
    exact apart.filter Event.succeeded
  -- Something was written where the description lies, as nothing was there at the beginning.
  have written : ∃ path text, Call.writeFile path text ∈
        (situation.events.filter Event.succeeded).map Event.call ∧
      path.Same ((Artifact.rootDescription backend).path root) := by
    by_contra unwritten
    push Not at unwritten
    rw [Store.get?_after_of_forall_not_same _ unwritten, Store.get?_empty] at described
    cases described
  rcases written with ⟨path, text, written, same⟩
  rcases List.mem_map.mp written with ⟨event, event_mem, call_eq⟩
  rcases List.append_of_mem (List.mem_filter.mp event_mem).1 with ⟨before, after, events_eq⟩
  rcases disciplined.describedLast before event after backend path text events_eq call_eq same with
    ⟨opened, filled⟩
  have made_before : ∀ {author call}, (⟨author, call, .ok ()⟩ : Event) ∈ before →
      call ∈ (situation.events.filter Event.succeeded).map Event.call := by
    intro author call event_mem
    apply made_of_mem
    rw [events_eq]
    exact List.mem_append_left _ event_mem
  constructor
  · intro artifact belongs described_last
    have call_mem := Job.call_mem_plan ⟨generator, Store.refusing refuse, root, recording⟩ belongs
    apply Store.get?_after_of_mem _ made_apart _ rfl
    cases author : artifact.author with
    | opening =>
        rw [author] at call_mem
        exact made_before (opened _ call_mem)
    | module number =>
        rw [author] at call_mem
        exact made_before (filled number (belongs.author_lt author) _ call_mem)
    | closing => exact absurd author described_last
  · intro directory directory_mem
    rw [Store.exists_same_directoryList_after]
    right
    refine ⟨directory, ?_, rfl⟩
    rcases List.mem_cons.mp directory_mem with rfl | directory_mem
    · exact made_before (opened _ (by simp))
    · rcases List.mem_map.mp directory_mem with ⟨module, module_mem, rfl⟩
      apply made_before (filled module (List.mem_range.mp module_mem) _ _)
      rw [Tree.calls_modulePlan]
      exact List.mem_cons_self

/-- In every situation of every run, in whatever order the workers take their turns and whichever
calls are refused, the calls keep to the discipline. On a store that was empty, a description of
the executable is there only when all else is. -/
theorem calls_disciplined (shape : Shape) (backends : List Backend) (parallel : Bool)
    (root : Path) (recording : Bool) :
    let generator := Generator.create shape backends parallel
    (∀ {State : Type} (sink : Sink State) (initial : State) (situation : Situation State),
      (⟨generator, sink, root, recording⟩ : Job State).Reaches initial situation →
      (⟨generator, sink, root, recording⟩ : Job State).Disciplined situation) ∧
    ∀ refuse situation,
      (⟨generator, Store.refusing refuse, root, recording⟩ : Job _).Reaches (0, .empty) situation →
      ∀ backend found,
        situation.state.2.get? ((Artifact.rootDescription backend).path root) = some found →
        (∀ artifact : Artifact, artifact.Belongs shape backends →
          (∀ other, artifact ≠ .rootDescription other) →
          situation.state.2.get? (artifact.path root) = some (artifact.text shape)) ∧
        ∀ directory ∈ Tree.directories root shape.modules,
          ∃ shown ∈ situation.state.2.directoryList, shown.Same directory := by
  intro generator
  have distinct : generator.backends.Nodup := Backend.nodup_distinct backends
  constructor
  · intro State sink initial situation reaches
    exact reaches.valid.disciplined distinct
  · intro refuse situation reaches backend found described
    rcases (reaches.valid.disciplined distinct).complete (reaches.valid.pairwise_apart distinct)
      reaches.replays described with ⟨files, directories⟩
    refine ⟨?_, directories⟩
    intro artifact belongs different
    apply files artifact (Artifact.belongs_distinct.mpr belongs)
    intro closing
    cases artifact <;> cases closing
    exact different _ rfl

/-- Two workers take turns, and at last the second description of the executable is refused. -/
theorem calls_disciplined_two_modules :
    let job : Job (Nat × Store) := ⟨Generator.create ⟨1, 0, 2⟩ [.cmake, .meique] true,
      Store.refusing fun number => if number = 13 then some .diskFull else none, ⟨"out"⟩, true⟩
    ∃ situation, job.Reaches (0, .empty) situation ∧ job.Disciplined situation ∧
      situation.events.map (fun event => (event.author, event.succeeded)) =
        [(.opening, true), (.opening, true), (.module 1, true), (.module 0, true),
          (.module 1, true), (.module 0, true), (.module 0, true), (.module 1, true),
          (.module 0, true), (.module 1, true), (.module 1, true), (.module 0, true),
          (.closing, true), (.closing, false)] ∧
      situation.state.2.get? (Artifact.main.path ⟨"out"⟩) = some (Source.main 2) := by
  intro job
  let schedule : List Thread := List.replicate 4 .opening
    ++ [0, 1, 1, 0, 1, 0, 0, 1, 0, 0, 1, 1, 1, 1, 0, 0, 0, 0, 1, 1].map .module
    ++ List.replicate 4 .closing
  have reaches := job.reaches_follow (0, .empty) schedule
  have described : ((job.follow (0, .empty) schedule).state.2.get?
      ((Artifact.rootDescription .cmake).path ⟨"out"⟩)).isSome = true := by
    decide +kernel
  rcases Option.isSome_iff_exists.mp described with ⟨found, described⟩
  rcases calls_disciplined ⟨1, 0, 2⟩ [.cmake, .meique] true ⟨"out"⟩ true with
    ⟨disciplined, complete⟩
  refine ⟨_, reaches, disciplined _ _ _ reaches, by decide +kernel, ?_⟩
  exact (complete _ _ reaches _ _ described).1 .main trivial (by simp)

end BenchTree

import BenchTree.Proofs.Parallel.Calls

/-!
# Taking the modules one after another

The generator's own run carries out one plan from beginning to end. This file shows that it is a
run with workers, for a generator that may work in parallel as for one that may not: each worker
begins when the one before has finished, and those behind a failed one are skipped.
-/

namespace BenchTree

variable {State : Type}

namespace Plan

/-- What was noted before makes no difference to what a plan does. -/
theorem exists_perform_eq {sink : Sink State} {recording : Bool} {plan : Plan} {before : Notes}
    {state : State} {outcome : Outcome State}
    (performed : plan.perform sink recording before state = outcome) (other : Notes) :
    ∃ noted, plan.perform sink recording other state = ⟨outcome.result, noted, outcome.state⟩ := by
  subst performed
  rcases perform_recording sink state plan recording recording other before with
    ⟨result_eq, state_eq⟩
  exact ⟨_, by rw [← result_eq, ← state_eq]⟩

end Plan

/-- The task of a thread that has carried out its plan. -/
def Outcome.task (outcome : Outcome State) : Task :=
  match outcome.result with
  | .ok () => .finished outcome.notes
  | .error problem => .failed problem

namespace Job

theorem reaches_advance {job : Job State} {thread : Thread} {situation : Situation State}
    {made events : List Event} {task later : Task} {state final : State}
    (step : Task.Step job.sink job.recording thread (situation.tasks thread) situation.state
      made task state)
    (reaches : Relation.ReflTransGen job.Step
      ⟨Function.update situation.tasks thread task, situation.events ++ made, state⟩
      ⟨Function.update (Function.update situation.tasks thread task) thread later, events,
        final⟩) :
    Relation.ReflTransGen job.Step situation
      ⟨Function.update situation.tasks thread later, events, final⟩ := by
  rw [Function.update_idem] at reaches
  exact .head (.advance step) reaches

variable (job : Job State)

/-- A thread at work may carry out its plan without being interrupted. -/
theorem reaches_perform {thread : Thread} {plan : Plan} (situation : Situation State)
    {notes : Notes} (working : situation.tasks thread = .working plan notes)
    {outcome : Outcome State}
    (performed : plan.perform job.sink job.recording notes situation.state = outcome) :
    ∃ events, Relation.ReflTransGen job.Step situation
      ⟨Function.update situation.tasks thread outcome.task, events, outcome.state⟩ := by
  subst performed
  induction plan generalizing situation notes with
  | done =>
      have step : Task.Step job.sink job.recording thread (situation.tasks thread) situation.state
          [] (.finished notes) situation.state := by
        rw [working]
        exact .finish
      exact ⟨_, .single (.advance step)⟩
  | step first rest ih =>
      have go_on : ∀ {made : List Event} {noted : Notes} {state : State},
          Task.Step job.sink job.recording thread (situation.tasks thread) situation.state
            made (.working (rest ()) noted) state →
          ∃ events, Relation.ReflTransGen job.Step situation
            ⟨Function.update situation.tasks thread
                ((rest ()).perform job.sink job.recording noted state).task,
              events, ((rest ()).perform job.sink job.recording noted state).state⟩ := by
        intro made noted state step
        rcases ih () ⟨Function.update situation.tasks thread (.working (rest ()) noted),
          situation.events ++ made, state⟩ (Function.update_self ..) with ⟨events, later⟩
        exact ⟨events, reaches_advance step later⟩
      cases first with
      | note more =>
          apply go_on
          rw [working]
          exact .note
      | call request =>
          cases answer : job.sink.perform request situation.state with
          | mk result next =>
              cases result with
              | ok _ =>
                  simp only [Plan.perform_call, answer]
                  apply go_on
                  rw [working]
                  exact .call answer
              | error problem =>
                  have step : Task.Step job.sink job.recording thread (situation.tasks thread)
                      situation.state [⟨thread, request, .error problem⟩] (.failed problem)
                      next := by
                    rw [working]
                    exact .failure answer
                  simp only [Plan.perform_call, answer]
                  exact ⟨_, .single (.advance step)⟩

/-- A run begins with the main thread's first part. -/
theorem reaches_opening (state : State) {outcome : Outcome State}
    (performed : (job.plan .opening).perform job.sink job.recording .empty state = outcome) :
    ∃ events, job.Reaches state
      ⟨Function.update (job.start state).tasks .opening outcome.task, events, outcome.state⟩ := by
  have working : (job.start state).tasks .opening = .working (job.plan .opening) .empty := rfl
  exact reaches_perform job _ working performed

/-- When all workers have finished, the main thread may carry out its last part. -/
theorem reaches_closing {situation : Situation State}
    (opened : (situation.tasks .opening).IsFinished)
    (finished : ∀ module < job.modules, (situation.tasks (.module module)).IsFinished)
    (unclosed : situation.tasks .closing = .waiting) {outcome : Outcome State}
    (performed : (job.plan .closing).perform job.sink job.recording .empty situation.state =
      outcome) :
    ∃ events, Relation.ReflTransGen job.Step situation
      ⟨Function.update situation.tasks .closing outcome.task, events, outcome.state⟩ := by
  let joined : Situation State := { situation with
    tasks := Function.update situation.tasks .closing (.working (job.plan .closing) .empty) }
  have step : job.Step situation joined := .join opened finished unclosed
  rcases reaches_perform job joined (Function.update_self ..) performed with ⟨events, later⟩
  simp only [joined, Function.update_idem] at later
  exact ⟨events, .head step later⟩

/-- A run is over when the main thread's last part is. -/
theorem ends_closing (tasks : Thread → Task) (events : List Event) (outcome : Outcome State) :
    job.Ends ⟨Function.update tasks .closing outcome.task, events, outcome.state⟩
      outcome.result := by
  rcases outcome with ⟨_ | _, notes, state⟩
  · exact .closingFailed (by simp [Outcome.task])
  · exact .finished ⟨notes, by simp [Outcome.task]⟩

/-- What may be done for each module when it is done for those before may be done for all. -/
theorem reaches_in_turn (holds : Nat → Situation State → Prop) {start : Nat}
    (start_le : start ≤ job.modules)
    (turn : ∀ module situation, start ≤ module → module < job.modules → holds module situation →
      ∃ next, Relation.ReflTransGen job.Step situation next ∧ holds (module + 1) next)
    {situation : Situation State} (first : holds start situation) :
    ∃ next, Relation.ReflTransGen job.Step situation next ∧ holds job.modules next := by
  suffices general : ∀ bound, start ≤ bound → bound ≤ job.modules →
      ∃ next, Relation.ReflTransGen job.Step situation next ∧ holds bound next by
    exact general job.modules start_le le_rfl
  intro bound start_le
  induction bound, start_le using Nat.le_induction with
  | base => exact fun _ => ⟨situation, .refl, first⟩
  | succ bound bound_ge ih =>
      intro bound_lt
      rcases ih (by omega) with ⟨before, earlier, before_holds⟩
      rcases turn bound before bound_ge bound_lt before_holds with ⟨next, later, next_holds⟩
      exact ⟨next, earlier.trans later, next_holds⟩

/-- The workers of the modules before `start` have finished, and the others wait. -/
structure Queued (situation : Situation State) (start : Nat) : Prop where
  finished : ∀ module < start, (situation.tasks (.module module)).IsFinished
  waiting : ∀ module, start ≤ module → situation.tasks (.module module) = .waiting

/-- The workers that wait behind a failed one may all be skipped. -/
theorem reaches_atRest {situation : Situation State} {failed : Nat} {problem : IoError}
    {events : List Event} {state : State} (queued : Queued situation failed)
    (failed_lt : failed < job.modules) :
    ∃ next, Relation.ReflTransGen job.Step
        ⟨Function.update situation.tasks (.module failed) (.failed problem), events, state⟩ next ∧
      next.tasks (.module failed) = .failed problem ∧ next.state = state ∧
      ∀ module < job.modules, (next.tasks (.module module)).AtRest := by
  let holds (bound : Nat) (next : Situation State) : Prop :=
    next.tasks (.module failed) = .failed problem ∧ next.state = state ∧
      (∀ module < bound, (next.tasks (.module module)).AtRest) ∧
      ∀ module, bound ≤ module → next.tasks (.module module) = .waiting
  have first : holds (failed + 1)
      ⟨Function.update situation.tasks (.module failed) (.failed problem), events, state⟩ := by
    refine ⟨Function.update_self .., rfl, ?_, ?_⟩
    · intro module module_lt
      by_cases same : module = failed
      · simp [same, Task.AtRest]
      · rcases queued.finished module (by omega) with ⟨notes, finished⟩
        simp [same, finished, Task.AtRest]
    · intro module module_ge
      have different : module ≠ failed := by omega
      simpa [different] using queued.waiting module (by omega)
  have turn : ∀ module next, failed + 1 ≤ module → module < job.modules → holds module next →
      ∃ later, Relation.ReflTransGen job.Step next later ∧ holds (module + 1) later := by
    rintro skipped next skipped_gt skipped_lt ⟨failure, same_state, atRest, waiting⟩
    refine ⟨{ next with tasks := Function.update next.tasks (.module skipped) .skipped },
      .single (.skip skipped_lt (waiting skipped le_rfl) failed_lt failure), ?_, same_state, ?_, ?_⟩
    · have different : failed ≠ skipped := by omega
      simpa [different] using failure
    · intro module module_lt
      by_cases same : module = skipped
      · simp [same, Task.AtRest]
      · simpa [same] using atRest module (by omega)
    · intro module module_ge
      have different : module ≠ skipped := by omega
      simpa [different] using waiting module (by omega)
  rcases reaches_in_turn job holds failed_lt turn first with
    ⟨next, reaches, failure, same_state, atRest, _⟩
  exact ⟨next, reaches, failure, same_state, atRest⟩

/-- The next worker may begin, and carry out its plan. -/
theorem reaches_module {situation : Situation State} {module : Nat}
    (queued : Queued situation module) (module_lt : module < job.modules)
    (opened : (situation.tasks .opening).IsFinished) {outcome : Outcome State}
    (performed : (job.plan (.module module)).perform job.sink job.recording .empty situation.state =
      outcome) :
    ∃ events, Relation.ReflTransGen job.Step situation
      ⟨Function.update situation.tasks (.module module) outcome.task, events, outcome.state⟩ := by
  let begun : Situation State := { situation with
    tasks := Function.update situation.tasks (.module module)
      (.working (job.plan (.module module)) .empty) }
  have step : job.Step situation begun :=
    .begin module_lt opened (queued.waiting module le_rfl) (.inr queued.finished)
  rcases reaches_perform job begun (Function.update_self ..) performed with ⟨events, later⟩
  simp only [begun, Function.update_idem] at later
  exact ⟨events, .head step later⟩

theorem Queued.next {situation : Situation State} {module : Nat} {notes : Notes}
    {events : List Event} {state : State} (queued : Queued situation module) :
    Queued ⟨Function.update situation.tasks (.module module) (.finished notes), events, state⟩
      (module + 1) := by
  constructor
  · intro earlier earlier_lt
    by_cases same : earlier = module
    · exact ⟨notes, by simp [same]⟩
    · simpa [same] using queued.finished earlier (by omega)
  · intro later later_ge
    have different : later ≠ module := by omega
    simpa [different] using queued.waiting later (by omega)

/-- Workers may take their turns in the order of the modules. -/
theorem reaches_each (count : Nat) {start : Nat} {situation : Situation State}
    (inside : start + count = job.modules) (opened : (situation.tasks .opening).IsFinished)
    (closed : situation.tasks .closing = .waiting) (queued : Queued situation start)
    {notes : Notes} {outcome : Outcome State}
    (performed : (Plan.each (fun module => job.plan (.module module)) start count).perform
      job.sink job.recording notes situation.state = outcome) :
    ∃ next, Relation.ReflTransGen job.Step situation next ∧ next.state = outcome.state ∧
      match outcome.result with
      | .ok () => Queued next job.modules ∧ next.tasks .closing = .waiting ∧
          (next.tasks .opening).IsFinished
      | .error problem => ∃ failed < job.modules,
          next.tasks (.module failed) = .failed problem ∧
          ∀ module < job.modules, (next.tasks (.module module)).AtRest := by
  induction count generalizing start situation notes outcome with
  | zero =>
      subst performed
      rw [Nat.add_zero] at inside
      subst inside
      exact ⟨situation, .refl, rfl, queued, closed, opened⟩
  | succ count ih =>
      have start_lt : start < job.modules := by omega
      have inside_next : start + 1 + count = job.modules := by omega
      rw [Plan.each, Plan.perform_append] at performed
      cases own : (job.plan (.module start)).perform job.sink job.recording .empty
          situation.state with
      | mk result noted state =>
          rcases Plan.exists_perform_eq own notes with ⟨others, first⟩
          rw [first] at performed
          rcases reaches_module job queued start_lt opened own with ⟨events, reaches⟩
          cases result with
          | error problem =>
              subst performed
              rcases reaches_atRest job queued start_lt with
                ⟨next, skipped, failure, state_eq, atRest⟩
              exact ⟨next, reaches.trans skipped, state_eq, start, start_lt, failure, atRest⟩
          | ok _ =>
              have next_queued : Queued (⟨Function.update situation.tasks (.module start)
                  (.finished noted), events, state⟩ : Situation State) (start + 1) :=
                queued.next
              rcases ih inside_next (by simpa using opened) (by simpa using closed) next_queued
                performed with ⟨next, turns, ended⟩
              exact ⟨next, reaches.trans turns, ended⟩

/-- The threads may follow each other as in the generator's own run. -/
theorem reaches_plan (state : State) {outcome : Outcome State}
    (performed : (job.generator.plan job.root).perform job.sink job.recording .empty state =
      outcome) :
    ∃ situation, job.Reaches state situation ∧ job.Ends situation outcome.result ∧
      situation.state = outcome.state := by
  rw [Generator.plan, Tree.plan_eq_append, Plan.perform_append] at performed
  cases opening : (Tree.openingPlan job.root job.generator.shape.modules).perform job.sink
      job.recording .empty state with
  | mk result noted opened =>
      rw [opening] at performed
      rcases reaches_opening job state opening with ⟨events, opening_reaches⟩
      cases result with
      | error problem =>
          subst performed
          exact ⟨_, opening_reaches, .openingFailed (by simp [Outcome.task]), rfl⟩
      | ok _ =>
          have queued : Queued (⟨Function.update (job.start state).tasks .opening
              (.finished noted), events, opened⟩ : Situation State) 0 :=
            ⟨by simp, fun _ _ => rfl⟩
          simp only [Plan.perform_append] at performed
          cases modules : (Plan.each (Tree.modulePlan job.root job.generator.shape
              job.generator.backends) 0 job.generator.shape.modules).perform job.sink
              job.recording noted opened with
          | mk result counted middle =>
              rw [modules] at performed
              rcases reaches_each job job.modules (Nat.zero_add _) ⟨noted, rfl⟩ rfl queued
                modules with ⟨next, turns, rfl, ended⟩
              have reaches := opening_reaches.trans turns
              cases result with
              | error problem =>
                  subst performed
                  rcases ended with ⟨failed, failed_lt, failure, atRest⟩
                  exact ⟨next, reaches, .moduleFailed failed_lt failure atRest, rfl⟩
              | ok _ =>
                  rcases ended with ⟨next_queued, unclosed, next_opened⟩
                  rcases Plan.exists_perform_eq performed .empty with ⟨last, closing⟩
                  rcases reaches_closing job next_opened next_queued.finished unclosed
                    closing with ⟨events, closing_reaches⟩
                  exact ⟨_, reaches.trans closing_reaches, ends_closing .., rfl⟩

end Job

/-- What a generator's own run comes to is one of the ends that workers may bring about. -/
theorem Generator.mayEnd_run (generator : Generator) (sink : Sink State) (root : Path)
    (recording : Bool) (state : State) :
    generator.MayEnd sink root recording state
      (generator.run sink root recording state).1 (generator.run sink root recording state).2 := by
  cases validation : generator.shape.validate with
  | error problem =>
      rw [run_of_invalid validation]
      simp [MayEnd, validation]
  | ok _ =>
      let job : Job State := ⟨generator, sink, root, recording⟩
      rcases job.reaches_plan state rfl with ⟨situation, reaches, ends, state_eq⟩
      rw [run_of_valid validation]
      simp only [MayEnd, validation]
      refine ⟨situation, _, reaches, ends, ?_, state_eq.symm⟩
      cases ended : ((generator.plan root).perform sink recording .empty state).result with
      | error problem => rfl
      | ok _ =>
          -- Both have noted what the plan contains.
          rw [ended] at ends
          rw [Plan.notes_perform _ _ _ _ _ ended, reaches.valid.notes_eq ends.isFinished]

end BenchTree

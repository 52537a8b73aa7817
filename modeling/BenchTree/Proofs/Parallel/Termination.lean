import BenchTree.Proofs.Parallel.Calls
import BenchTree.Proofs.Parallel.Schedule

/-!
# Termination of runs with workers

However the workers take their turns, a run comes to its end: every situation that it can come to
is accessible for the relation which takes one step of the run, and from a situation that is not
an end some step can be taken. Whether the sink refuses calls does not matter.

The relation is not well-founded on arbitrary situations, as there could be workers beyond those of
the modules. So accessibility is established for the situations which satisfy `Job.Valid`.
-/

namespace BenchTree

/-- The number of steps of a plan. -/
def Plan.length : Plan → Nat
  | .done => 0
  | .step _ rest => (rest ()).length + 1

namespace Task

/-- What is left to do for a task. -/
def weight (plan : Plan) : Task → Nat
  | .waiting => plan.length + 2
  | .working remaining _ => remaining.length + 1
  | .finished _ => 0
  | .failed _ => 0
  | .skipped => 0

variable {State : Type} {sink : Sink State} {recording : Bool} {author : Thread}

theorem Step.weight_lt {task next : Task} {state nextState : State} {made : List Event}
    (step : Step sink recording author task state made next nextState) (plan : Plan) :
    next.weight plan < task.weight plan := by
  cases step <;> simp [weight, Plan.length]

theorem AtRest.not_waiting {task : Task} (atRest : task.AtRest) : task ≠ .waiting := by
  rintro rfl
  exact atRest

end Task

namespace Job

variable {State : Type} {job : Job State} {situation next : Situation State}

/-- What is left to do in a run. -/
def work (job : Job State) (situation : Situation State) : Nat :=
  ((Thread.all job.modules).map fun thread =>
    (situation.tasks thread).weight (job.plan thread)).sum

theorem work_update_lt {thread : Thread} (thread_mem : thread ∈ Thread.all job.modules)
    {task : Task}
    (lighter : task.weight (job.plan thread) < (situation.tasks thread).weight (job.plan thread))
    (events : List Event) (state : State) :
    job.work ⟨Function.update situation.tasks thread task, events, state⟩ <
      job.work situation := by
  apply List.sum_lt_sum
  · intro other _
    by_cases same : other = thread
    · subst same
      simpa using lighter.le
    · simp [same]
  · exact ⟨thread, thread_mem, by simpa using lighter⟩

/-- Every step of a run leaves less to do. -/
theorem Step.work_lt (step : job.Step situation next) (valid : job.Valid situation) :
    job.work next < job.work situation := by
  cases step with
  | advance step =>
      rcases step.exists_working with ⟨remaining, notes, working⟩
      exact work_update_lt (valid.mem_all (by simp [working])) (step.weight_lt _) _ _
  | begin module_lt opened waiting allowed =>
      apply work_update_lt (by simp [Thread.all, module_lt])
      simp [waiting, Task.weight]
  | skip module_lt waiting other_lt failed =>
      apply work_update_lt (by simp [Thread.all, module_lt])
      simp [waiting, Task.weight]
  | join opened finished waiting =>
      apply work_update_lt (by simp [Thread.all])
      simp [waiting, Task.weight]

theorem Valid.acc (valid : job.Valid situation) :
    Acc (fun later earlier => job.Step earlier later) situation := by
  induction work : job.work situation using Nat.strong_induction_on generalizing situation with
  | h amount ih =>
      constructor
      intro later step
      refine ih _ ?_ (step.valid valid) rfl
      rw [← work]
      exact step.work_lt valid

/-- A worker at rest that has not finished has failed, or another one has. -/
theorem Valid.exists_failed (valid : job.Valid situation) {module : Nat}
    (module_lt : module < job.modules) (atRest : (situation.tasks (.module module)).AtRest)
    (unfinished : ¬(situation.tasks (.module module)).IsFinished) :
    ∃ other < job.modules, ∃ problem, situation.tasks (.module other) = .failed problem := by
  cases task : situation.tasks (.module module) with
  | waiting => exact absurd task atRest.not_waiting
  | working remaining notes =>
      rw [task] at atRest
      cases atRest
  | finished notes => exact absurd ⟨notes, task⟩ unfinished
  | failed problem => exact ⟨module, module_lt, problem, task⟩
  | skipped => exact (valid.skipped _ task).2

/-- A thread at work can go on, whatever the sink answers. -/
theorem exists_step_of_working {thread : Thread} {remaining : Plan} {notes : Notes}
    (working : situation.tasks thread = .working remaining notes) :
    ∃ next, job.Step situation next := by
  rcases advanced : Task.advance job.sink job.recording thread notes situation.state remaining
    with ⟨made, task, state⟩
  rw [← Task.step_working_iff, ← working] at advanced
  exact ⟨_, .advance advanced⟩

/-- While some worker is not at rest, there is a step to take. -/
theorem Valid.exists_step_of_not_atRest (valid : job.Valid situation)
    (opened : (situation.tasks .opening).IsFinished)
    (unrest : ∃ module, module < job.modules ∧ ¬(situation.tasks (.module module)).AtRest) :
    ∃ next, job.Step situation next := by
  classical
  -- All workers before the first that is not at rest are, so it may begin or be skipped.
  rcases Nat.find_spec unrest with ⟨module_lt, restless⟩
  have atRest : ∀ earlier < Nat.find unrest, (situation.tasks (.module earlier)).AtRest := by
    intro earlier earlier_lt
    by_contra earlier_restless
    exact Nat.find_min unrest earlier_lt ⟨by omega, earlier_restless⟩
  cases task : situation.tasks (.module (Nat.find unrest)) with
  | working remaining notes => exact exists_step_of_working task
  | waiting =>
      by_cases finished : ∀ earlier < Nat.find unrest,
          (situation.tasks (.module earlier)).IsFinished
      · exact ⟨_, .begin module_lt opened task (.inr finished)⟩
      · push Not at finished
        rcases finished with ⟨earlier, earlier_lt, unfinished⟩
        rcases valid.exists_failed (by omega) (atRest earlier earlier_lt) unfinished with
          ⟨other, other_lt, problem, failed⟩
        exact ⟨_, .skip module_lt task other_lt failed⟩
  | finished notes =>
      rw [task] at restless
      exact absurd trivial restless
  | failed problem =>
      rw [task] at restless
      exact absurd trivial restless
  | skipped =>
      rw [task] at restless
      exact absurd trivial restless

/-- No run gets stuck before its end. -/
theorem Valid.ends_or_steps (valid : job.Valid situation) :
    (∃ ending, job.Ends situation ending) ∨ ∃ next, job.Step situation next := by
  cases opening : situation.tasks .opening with
  | waiting => exact absurd opening valid.begun
  | working remaining notes => exact .inr (exists_step_of_working opening)
  | failed problem => exact .inl ⟨_, .openingFailed opening⟩
  | skipped => cases (valid.skipped _ opening).1
  | finished notes =>
      have opened : (situation.tasks .opening).IsFinished := ⟨notes, opening⟩
      by_cases unrest : ∃ module, module < job.modules ∧
          ¬(situation.tasks (.module module)).AtRest
      · exact .inr (valid.exists_step_of_not_atRest opened unrest)
      push Not at unrest
      by_cases finished : ∀ module < job.modules, (situation.tasks (.module module)).IsFinished
      · cases closing : situation.tasks .closing with
        | waiting => exact .inr ⟨_, .join opened finished closing⟩
        | working remaining notes => exact .inr (exists_step_of_working closing)
        | finished notes => exact .inl ⟨_, .finished ⟨notes, closing⟩⟩
        | failed problem => exact .inl ⟨_, .closingFailed closing⟩
        | skipped => cases (valid.skipped _ closing).1
      · push Not at finished
        rcases finished with ⟨module, module_lt, unfinished⟩
        rcases valid.exists_failed module_lt (unrest module module_lt) unfinished with
          ⟨other, other_lt, problem, failed⟩
        exact .inl ⟨_, .moduleFailed other_lt failed unrest⟩

end Job

/-- Whatever turns the workers take, a run does not go on forever and does not get stuck before its
end. -/
def Generator.AlwaysEnds {State : Type} (generator : Generator) (sink : Sink State) (root : Path)
    (recording : Bool) (state : State) : Prop :=
  let job : Job State := ⟨generator, sink, root, recording⟩
  ∀ situation, job.Reaches state situation →
    Acc (fun later earlier => job.Step earlier later) situation ∧
      ((∃ ending, job.Ends situation ending) ∨ ∃ next, job.Step situation next)

theorem Generator.alwaysEnds {State : Type} (generator : Generator) (sink : Sink State)
    (root : Path) (recording : Bool) (state : State) :
    generator.AlwaysEnds sink root recording state := by
  intro situation reaches
  exact ⟨reaches.valid.acc, reaches.valid.ends_or_steps⟩

end BenchTree

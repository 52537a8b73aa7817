import BenchTree.Proofs.Parallel.Machine

/-!
# Schedules

All that is open in a run is which thread takes the next turn, and whether workers are skipped
behind a failed one. What a thread does in its turn is a function of the situation: at work it
takes a step of its plan, and while it waits it begins if it may. So every list of threads is the
schedule of a run, and the run can be followed by evaluation. Conversely, a run that skips no
worker follows a schedule.
-/

namespace BenchTree

variable {State : Type}

namespace Task

/-- Whether a task is finished can be seen from it. -/
instance : DecidablePred IsFinished
  | .finished notes => .isTrue ⟨notes, rfl⟩
  | .waiting => .isFalse nofun
  | .working _ _ => .isFalse nofun
  | .failed _ => .isFalse nofun
  | .skipped => .isFalse nofun

/-- What a thread at work does next: what it calls, and the task and the sink's state after it. -/
def advance (sink : Sink State) (recording : Bool) (author : Thread) (notes : Notes)
    (state : State) : Plan → List Event × Task × State
  | .done => ([], .finished notes, state)
  | .step (.note more) rest => ([], .working (rest ()) (notes.add recording more), state)
  | .step (.call request) rest =>
      match sink.perform request state with
      | (.ok (), next) => ([⟨author, request, .ok ()⟩], .working (rest ()) notes, next)
      | (.error problem, next) => ([⟨author, request, .error problem⟩], .failed problem, next)

/-- A thread at work has one step to take. -/
theorem step_working_iff {sink : Sink State} {recording : Bool} {author : Thread}
    {remaining : Plan} {notes : Notes} {state nextState : State} {made : List Event}
    {next : Task} :
    Step sink recording author (.working remaining notes) state made next nextState ↔
      advance sink recording author notes state remaining = (made, next, nextState) := by
  constructor
  · intro step
    cases step with
    | note => rfl
    | call answer => simp [advance, answer]
    | failure answer => simp [advance, answer]
    | finish => rfl
  · intro advanced
    cases remaining with
    | done =>
        cases advanced
        exact .finish
    | step first rest =>
        cases first with
        | note more =>
            cases advanced
            exact .note
        | call request =>
            rcases answer : sink.perform request state with ⟨_ | _, final⟩ <;>
              simp only [advance, answer] at advanced <;> cases advanced
            · exact .failure answer
            · exact .call answer

end Task

namespace Job

variable (job : Job State) (situation : Situation State)

/-- A thread that waits may begin. -/
def MayBegin (tasks : Thread → Task) : Thread → Prop
  | .opening => False
  | .module number => number < job.modules ∧ (tasks .opening).IsFinished ∧
      (job.generator.parallel = true ∨ ∀ earlier < number, (tasks (.module earlier)).IsFinished)
  | .closing => (tasks .opening).IsFinished ∧
      ∀ module < job.modules, (tasks (.module module)).IsFinished

/-- Whether a thread may begin is found out by looking at the tasks of a run. -/
instance (tasks : Thread → Task) : DecidablePred (job.MayBegin tasks)
  | .opening => .isFalse not_false
  | .module number => inferInstanceAs (Decidable (number < job.modules ∧ _ ∧ (_ ∨ _)))
  | .closing => inferInstanceAs (Decidable (_ ∧ ∀ module < job.modules, _))

/-- The situation after a turn of a thread. Nothing happens when the thread has nothing to do. -/
def turn (thread : Thread) : Situation State :=
  match situation.tasks thread with
  | .working remaining notes =>
      let (made, task, state) :=
        Task.advance job.sink job.recording thread notes situation.state remaining
      ⟨Function.update situation.tasks thread task, situation.events ++ made, state⟩
  | .waiting =>
      if job.MayBegin situation.tasks thread then
        { situation with
          tasks := Function.update situation.tasks thread (.working (job.plan thread) .empty) }
      else situation
  | _ => situation

/-- The situation that a run comes to whose threads take their turns as a schedule says. -/
def follow (state : State) (schedule : List Thread) : Situation State :=
  schedule.foldl job.turn (job.start state)

variable {job situation}

/-- A turn is a step of the run, unless nothing happens. -/
theorem reaches_turn (thread : Thread) :
    Relation.ReflTransGen job.Step situation (job.turn situation thread) := by
  unfold turn
  split
  · rename_i remaining notes working
    rcases advanced : Task.advance job.sink job.recording thread notes situation.state remaining
      with ⟨made, task, state⟩
    rw [← Task.step_working_iff, ← working] at advanced
    exact .single (.advance advanced)
  · rename_i waiting
    split
    · rename_i mayBegin
      cases thread with
      | opening => exact mayBegin.elim
      | module number =>
          exact .single (.begin mayBegin.1 mayBegin.2.1 waiting mayBegin.2.2)
      | closing => exact .single (.join mayBegin.1 mayBegin.2 waiting)
    · exact .refl
  · exact .refl

/-- Threads may take their turns in any order. -/
theorem reaches_follow (state : State) (schedule : List Thread) :
    job.Reaches state (job.follow state schedule) := by
  induction schedule using List.reverseRecOn with
  | nil => exact .refl
  | append_singleton earlier thread ih =>
      rw [follow, List.foldl_concat]
      exact ih.trans (reaches_turn thread)

/-- A step of a run is a turn, unless it skips a worker. -/
theorem Step.exists_turn {next : Situation State} (step : job.Step situation next) :
    (∃ thread, next = job.turn situation thread) ∨
      ∃ module, next.tasks (.module module) = .skipped := by
  cases step with
  | @advance thread made task state step =>
      left
      refine ⟨thread, ?_⟩
      cases task_eq : situation.tasks thread with
      | working remaining notes =>
          rw [task_eq, Task.step_working_iff] at step
          simp only [turn, task_eq, step]
      | _ =>
          rw [task_eq] at step
          cases step
  | @begin module inside opened waiting allowed =>
      have mayBegin : job.MayBegin situation.tasks (.module module) := ⟨inside, opened, allowed⟩
      exact .inl ⟨.module module, by simp only [turn, waiting, if_pos mayBegin]⟩
  | @skip module _ _ _ _ _ _ => exact .inr ⟨module, Function.update_self ..⟩
  | join opened finished waiting =>
      have mayBegin : job.MayBegin situation.tasks .closing := ⟨opened, finished⟩
      exact .inl ⟨.closing, by simp only [turn, waiting, if_pos mayBegin]⟩

/-- A worker that was skipped stays so. -/
theorem Step.skipped {next : Situation State} (step : job.Step situation next) {thread : Thread}
    (skipped : situation.tasks thread = .skipped) : next.tasks thread = .skipped := by
  have kept : ∀ {other : Thread} {task : Task}, situation.tasks other ≠ .skipped →
      Function.update situation.tasks other task thread = .skipped := by
    intro other task different
    have apart : thread ≠ other := by
      rintro rfl
      exact different skipped
    simpa [apart] using skipped
  cases step with
  | @advance other _ _ _ step =>
      apply kept
      intro same
      rw [same] at step
      cases step
  | begin _ _ waiting _ => exact kept (by simp [waiting])
  | skip _ waiting _ _ => exact kept (by simp [waiting])
  | join _ _ waiting => exact kept (by simp [waiting])

/-- A run that skips no worker follows a schedule. -/
theorem Reaches.exists_schedule {state : State} (reaches : job.Reaches state situation)
    (unskipped : ∀ module, situation.tasks (.module module) ≠ .skipped) :
    ∃ schedule, situation = job.follow state schedule := by
  induction reaches with
  | refl => exact ⟨[], rfl⟩
  | @tail earlier later _ step ih =>
      rcases ih fun module skipped => unskipped module (step.skipped skipped) with
        ⟨schedule, rfl⟩
      rcases step.exists_turn with ⟨thread, rfl⟩ | ⟨module, skipped⟩
      · exact ⟨schedule ++ [thread], by rw [follow, follow, List.foldl_concat]⟩
      · exact absurd skipped (unskipped module)

end Job

end BenchTree

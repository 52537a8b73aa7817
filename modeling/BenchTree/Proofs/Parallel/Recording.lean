import BenchTree.Proofs.Parallel.Machine

/-!
# Noting artifacts changes nothing else

What a thread notes is not read until the run is over. So a run that notes artifacts and one that
does not can be taken side by side: each step of one is a step of the other, with the same call
and the same answer of the sink, and they are over at the same time with the same result.
-/

namespace BenchTree

/-- Two tasks differ at most in what was noted. -/
inductive Task.Alike : Task → Task → Prop where
  | waiting : Alike .waiting .waiting
  | working {remaining : Plan} {left right : Notes} :
      Alike (.working remaining left) (.working remaining right)
  | finished {left right : Notes} : Alike (.finished left) (.finished right)
  | failed {problem : IoError} : Alike (.failed problem) (.failed problem)
  | skipped : Alike .skipped .skipped

namespace Task.Alike

variable {left right : Task}

theorem isFinished (alike : left.Alike right) (finished : left.IsFinished) : right.IsFinished := by
  rcases finished with ⟨notes, rfl⟩
  cases alike with
  | finished => exact ⟨_, rfl⟩

theorem eq_waiting (alike : left.Alike right) (waiting : left = .waiting) : right = .waiting := by
  subst waiting
  cases alike with
  | waiting => rfl

theorem eq_failed (alike : left.Alike right) {problem : IoError} (failed : left = .failed problem) :
    right = .failed problem := by
  subst failed
  cases alike with
  | failed => rfl

theorem atRest (alike : left.Alike right) (atRest : left.AtRest) : right.AtRest := by
  cases alike with
  | waiting => exact atRest
  | working => exact atRest
  | finished => trivial
  | failed => trivial
  | skipped => trivial

/-- A thread at work goes on as one that noted something else. -/
theorem step {State : Type} {sink : Sink State} {first second : Bool} {author : Thread}
    {next : Task} {state nextState : State} {made : List Event} (alike : left.Alike right)
    (step : Task.Step sink first author left state made next nextState) :
    ∃ other, Task.Step sink second author right state made other nextState ∧ next.Alike other := by
  cases step with
  | note =>
      cases alike with
      | working => exact ⟨_, .note, .working⟩
  | call answer =>
      cases alike with
      | working => exact ⟨_, .call answer, .working⟩
  | failure answer =>
      cases alike with
      | working => exact ⟨_, .failure answer, .failed⟩
  | finish =>
      cases alike with
      | working => exact ⟨_, .finish, .finished⟩

end Task.Alike

/-- Two situations differ at most in what was noted. -/
structure Situation.Alike {State : Type} (left right : Situation State) : Prop where
  tasks : ∀ thread, (left.tasks thread).Alike (right.tasks thread)
  events : left.events = right.events
  state : left.state = right.state

namespace Situation.Alike

variable {State : Type} {left right : Situation State}

theorem update (alike : left.Alike right) (thread : Thread) {task other : Task}
    (task_alike : task.Alike other) :
    Situation.Alike { left with tasks := Function.update left.tasks thread task }
      { right with tasks := Function.update right.tasks thread other } := by
  refine ⟨?_, alike.events, alike.state⟩
  intro any
  by_cases same : any = thread
  · subst same
    simpa using task_alike
  · simpa [same] using alike.tasks any

end Situation.Alike

namespace Job

variable {State : Type} {generator : Generator} {sink : Sink State} {root : Path}
  {first : Bool} {left right next : Situation State}

theorem alike_start (generator : Generator) (sink : Sink State) (root : Path)
    (first second : Bool) (state : State) :
    (start ⟨generator, sink, root, first⟩ state).Alike
      (start ⟨generator, sink, root, second⟩ state) := by
  refine ⟨?_, rfl, rfl⟩
  intro thread
  cases thread with
  | opening => exact .working
  | module number => exact .waiting
  | closing => exact .waiting

/-- A step can be taken in a situation that is alike, and the situations remain alike. -/
theorem Step.exists_alike (second : Bool) (step : Step ⟨generator, sink, root, first⟩ left next)
    (alike : left.Alike right) :
    ∃ other, Step ⟨generator, sink, root, second⟩ right other ∧ next.Alike other := by
  cases step with
  | @advance thread _ _ _ taken =>
      rcases (alike.tasks _).step taken with ⟨other, taken, task_alike⟩
      rw [alike.state] at taken
      refine ⟨_, .advance taken, ?_⟩
      have updated := alike.update thread task_alike
      exact ⟨updated.tasks, congrArg (· ++ _) alike.events, rfl⟩
  | begin inside opened waiting allowed =>
      refine ⟨_, .begin inside ((alike.tasks _).isFinished opened)
        ((alike.tasks _).eq_waiting waiting) ?_, alike.update _ .working⟩
      apply allowed.imp_right
      intro finished earlier earlier_lt
      exact (alike.tasks _).isFinished (finished earlier earlier_lt)
  | skip inside waiting otherInside failed =>
      exact ⟨_, .skip inside ((alike.tasks _).eq_waiting waiting) otherInside
        ((alike.tasks _).eq_failed failed), alike.update _ .skipped⟩
  | join opened finished waiting =>
      refine ⟨_, .join ((alike.tasks _).isFinished opened) ?_
        ((alike.tasks _).eq_waiting waiting), alike.update _ .working⟩
      intro module module_lt
      exact (alike.tasks _).isFinished (finished module module_lt)

theorem Reaches.exists_alike (second : Bool) {initial : State}
    (reaches : Reaches ⟨generator, sink, root, first⟩ initial left) :
    ∃ other, Reaches ⟨generator, sink, root, second⟩ initial other ∧ left.Alike other := by
  induction reaches with
  | refl => exact ⟨_, .refl, alike_start generator sink root first second initial⟩
  | tail _ step ih =>
      rcases ih with ⟨between, between_reaches, alike⟩
      rcases step.exists_alike second alike with ⟨other, other_step, other_alike⟩
      exact ⟨other, between_reaches.tail other_step, other_alike⟩

theorem Ends.alike (second : Bool) {ending : Except IoError Unit}
    (ends : Ends ⟨generator, sink, root, first⟩ left ending) (alike : left.Alike right) :
    Ends ⟨generator, sink, root, second⟩ right ending := by
  cases ends with
  | openingFailed failed => exact .openingFailed ((alike.tasks _).eq_failed failed)
  | moduleFailed inside failed atRest =>
      refine .moduleFailed inside ((alike.tasks _).eq_failed failed) ?_
      intro other other_lt
      exact (alike.tasks _).atRest (atRest other other_lt)
  | closingFailed failed => exact .closingFailed ((alike.tasks _).eq_failed failed)
  | finished finished => exact .finished ((alike.tasks _).isFinished finished)

end Job

end BenchTree

import BenchTree.Proofs.Parallel.Machine
import BenchTree.Proofs.Word.Saturation

/-!
# The history of a run

What a thread has called so far, and what it may still call, is its plan: this holds for every
thread in every situation that a run can come to, whatever the sink answers. Along with it go the
order of the three parts of a run and the reasons why a task waits or is skipped. These facts make
up the invariant `Job.Valid`, which every step keeps.
-/

namespace BenchTree

/-- The artifacts that carrying out a plan notes. -/
def Plan.noted (recording : Bool) (plan : Plan) : List Path :=
  if recording then plan.artifacts else []

/-- What is noted when a plan was carried out, behind what was noted before. -/
def Plan.notes (recording : Bool) : Plan → Notes → Notes
  | .done, notes => notes
  | .step (.call _) rest, notes => (rest ()).notes recording notes
  | .step (.note more) rest, notes => (rest ()).notes recording (notes.add recording more)

namespace Plan

variable (plan : Plan) (recording : Bool) (before : Notes)

theorem toList_artifacts_notes :
    (plan.notes recording before).artifacts.toList =
      before.artifacts.toList ++ plan.noted recording := by
  induction plan generalizing before with
  | done => cases recording <;> simp [notes, noted]
  | step first rest ih =>
      cases first with
      | call request => exact ih () before
      | note more =>
          rw [notes, ih]
          cases recording <;> simp [noted, Notes.add]

/-- What a plan counts is added to what was counted before, up to the largest word. -/
theorem sources_notes {count : Nat} (counted : before.sources = Word.saturate count) :
    (plan.notes recording before).sources = Word.saturate (count + plan.counts.sum) := by
  induction plan generalizing before count with
  | done => exact counted
  | step first rest ih =>
      cases first with
      | call request => exact ih () before counted
      | note more =>
          have added : (before.add recording more).sources =
              Word.saturate (count + more.sources) := by
            rw [Notes.add, Word.saturatingAdd, counted, Word.saturate_add]
          rw [notes, ih () _ added, counts_note, List.sum_cons, Nat.add_assoc]

theorem sources_notes_empty :
    (plan.notes recording .empty).sources = Word.saturate plan.counts.sum := by
  have nothing : Notes.empty.sources = Word.saturate 0 := rfl
  rw [sources_notes plan recording .empty nothing, Nat.zero_add]

/-- A plan that ends without failure leaves the notes that it contains. -/
theorem notes_perform {State : Type} (sink : Sink State) (state : State)
    (succeeded : (plan.perform sink recording before state).result = .ok ()) :
    (plan.perform sink recording before state).notes = plan.notes recording before := by
  induction plan generalizing before state with
  | done => rfl
  | step first rest ih =>
      cases first with
      | note more => exact ih () _ state succeeded
      | call request =>
          rw [perform_call] at succeeded ⊢
          split at succeeded
          · exact ih () before _ succeeded
          · cases succeeded

end Plan

/-- The events of calls that were all carried out. -/
def Event.carriedOut (author : Thread) (calls : List Call) : List Event :=
  calls.map fun call => ⟨author, call, .ok ()⟩

namespace Task

/-- The events are what a thread with the given plan has done when its task stands as it does. -/
def Accounts (recording : Bool) (plan : Plan) (author : Thread) (events : List Event) :
    Task → Prop
  | .waiting => events = []
  | .working remaining notes => ∃ calls, events = Event.carriedOut author calls ∧
      plan.calls = calls ++ remaining.calls ∧
      remaining.notes recording notes = plan.notes recording .empty
  | .finished notes =>
      events = Event.carriedOut author plan.calls ∧ notes = plan.notes recording .empty
  | .failed problem => ∃ calls call rest,
      events = Event.carriedOut author calls ++ [⟨author, call, .error problem⟩] ∧
      plan.calls = calls ++ call :: rest
  | .skipped => events = []

variable {State : Type} {sink : Sink State} {recording : Bool} {author : Thread} {plan : Plan}

theorem Step.author_eq {task next : Task} {state nextState : State} {made : List Event}
    (step : Step sink recording author task state made next nextState) :
    ∀ event ∈ made, event.author = author := by
  cases step <;> simp

theorem Step.exists_working {task next : Task} {state nextState : State} {made : List Event}
    (step : Step sink recording author task state made next nextState) :
    ∃ remaining notes, task = .working remaining notes := by
  cases step <;> exact ⟨_, _, rfl⟩

theorem Step.pairwise {task next : Task} {state nextState : State} {made : List Event}
    (step : Step sink recording author task state made next nextState)
    (relation : Event → Event → Prop) : made.Pairwise relation := by
  cases step <;> simp

theorem Step.ne_skipped {task next : Task} {state nextState : State} {made : List Event}
    (step : Step sink recording author task state made next nextState) : next ≠ .skipped := by
  cases step <;> simp

theorem Step.ne_waiting {task next : Task} {state nextState : State} {made : List Event}
    (step : Step sink recording author task state made next nextState) : next ≠ .waiting := by
  cases step <;> simp

theorem Step.accounts {task next : Task} {state nextState : State} {made events : List Event}
    (step : Step sink recording author task state made next nextState)
    (accounts : task.Accounts recording plan author events) :
    next.Accounts recording plan author (events ++ made) := by
  cases step with
  | @note more rest notes =>
      rcases accounts with ⟨calls, rfl, plan_calls, plan_notes⟩
      exact ⟨calls, by simp, plan_calls, plan_notes⟩
  | @call request rest notes _ _ answer =>
      rcases accounts with ⟨calls, rfl, plan_calls, plan_notes⟩
      refine ⟨calls ++ [request], by simp [Event.carriedOut], ?_, plan_notes⟩
      rw [plan_calls]
      simp
  | @failure request rest notes _ _ problem answer =>
      rcases accounts with ⟨calls, rfl, plan_calls, _⟩
      exact ⟨calls, request, (rest ()).calls, rfl, plan_calls⟩
  | finish =>
      rcases accounts with ⟨calls, rfl, plan_calls, plan_notes⟩
      rw [Plan.calls_done, List.append_nil] at plan_calls
      exact ⟨by simp [plan_calls], plan_notes⟩

theorem result_of_mem_carriedOut {calls : List Call} {event : Event}
    (event_mem : event ∈ Event.carriedOut author calls) : event.result = .ok () := by
  rcases List.mem_map.mp event_mem with ⟨call, _, rfl⟩
  rfl

/-- A thread makes the calls of its plan in order. -/
theorem Accounts.isPrefix_calls {task : Task} {events : List Event}
    (accounts : task.Accounts recording plan author events) :
    events.map Event.call <+: plan.calls := by
  have made : ∀ calls, (Event.carriedOut author calls).map Event.call = calls := by
    intro calls
    simp [Event.carriedOut, Function.comp_def]
  cases task with
  | waiting => simp [show events = [] from accounts]
  | skipped => simp [show events = [] from accounts]
  | working remaining notes =>
      rcases accounts with ⟨calls, rfl, plan_calls, _⟩
      rw [made, plan_calls]
      exact List.prefix_append calls remaining.calls
  | finished notes =>
      rcases accounts with ⟨rfl, _⟩
      rw [made]
  | failed problem =>
      rcases accounts with ⟨calls, call, rest, rfl, plan_calls⟩
      rw [List.map_append, made, plan_calls]
      exact ⟨rest, by simp⟩

/-- Only the last call of a thread may have failed. -/
theorem Accounts.result_of_mem_dropLast {task : Task} {events : List Event}
    (accounts : task.Accounts recording plan author events) :
    ∀ event ∈ events.dropLast, event.result = .ok () := by
  intro event event_mem
  cases task with
  | waiting => simp [show events = [] from accounts] at event_mem
  | skipped => simp [show events = [] from accounts] at event_mem
  | working remaining notes =>
      rcases accounts with ⟨calls, rfl, _⟩
      exact result_of_mem_carriedOut (List.mem_of_mem_dropLast event_mem)
  | finished notes =>
      rcases accounts with ⟨rfl, _⟩
      exact result_of_mem_carriedOut (List.mem_of_mem_dropLast event_mem)
  | failed problem =>
      rcases accounts with ⟨calls, call, rest, rfl, _⟩
      rw [List.dropLast_concat] at event_mem
      exact result_of_mem_carriedOut event_mem

/-- What a thread did before one of its calls succeeded and begins its plan. -/
theorem Accounts.split {task : Task} {before after : List Event} {event : Event}
    (accounts : task.Accounts recording plan author (before ++ event :: after)) :
    (∀ earlier ∈ before, earlier.result = .ok ()) ∧
      ∃ rest, plan.calls = before.map Event.call ++ event.call :: rest := by
  constructor
  · intro earlier earlier_mem
    apply accounts.result_of_mem_dropLast
    rw [List.dropLast_append_of_ne_nil (by simp)]
    exact List.mem_append_left _ earlier_mem
  · rcases accounts.isPrefix_calls with ⟨rest, plan_calls⟩
    exact ⟨after.map Event.call ++ rest, by simp [← plan_calls]⟩

theorem IsFinished.accounts {task : Task} {events : List Event} (finished : task.IsFinished)
    (accounts : task.Accounts recording plan author events) :
    events = Event.carriedOut author plan.calls ∧
      task.notes = plan.notes recording .empty := by
  rcases finished with ⟨notes, rfl⟩
  exact accounts

end Task

/-- The order of a run's parts. -/
def Thread.rank : Thread → Nat
  | .opening => 0
  | .module _ => 1
  | .closing => 2

/-- The events of one thread. -/
def Situation.by {State : Type} (situation : Situation State) (author : Thread) : List Event :=
  situation.events.filter fun event => event.author = author

theorem Situation.mem_by {State : Type} {situation : Situation State} {author : Thread}
    {event : Event} :
    event ∈ situation.by author ↔ event ∈ situation.events ∧ event.author = author := by
  simp [Situation.by]

theorem Situation.by_append {State : Type} (situation : Situation State) {author : Thread}
    {made : List Event} (authored : ∀ event ∈ made, event.author = author)
    (tasks : Thread → Task) (state : State) (thread : Thread) :
    (⟨tasks, situation.events ++ made, state⟩ : Situation State).by thread =
      situation.by thread ++ if thread = author then made else [] := by
  simp only [Situation.by, List.filter_append]
  congr 1
  by_cases same : thread = author
  · rw [if_pos same, List.filter_eq_self]
    intro event event_mem
    simp [authored event event_mem, same]
  · rw [if_neg same, List.filter_eq_nil_iff]
    intro event event_mem
    simp [authored event event_mem, Ne.symm same]

theorem Task.not_isFinished_working {remaining : Plan} {notes : Notes} :
    ¬(Task.working remaining notes).IsFinished := by
  rintro ⟨_, same⟩
  cases same

namespace Job

variable {State : Type} {job : Job State}

/-- What must be done before a thread begins. -/
def Due (job : Job State) (tasks : Thread → Task) : Thread → Prop
  | .opening => True
  | .module number => number < job.modules ∧ (tasks .opening).IsFinished
  | .closing => (tasks .opening).IsFinished ∧
      ∀ module < job.modules, (tasks (.module module)).IsFinished

/-- How the tasks of a run depend on each other. -/
structure Coherent (job : Job State) (tasks : Thread → Task) : Prop where
  /-- The main thread is at work from the beginning. -/
  begun : tasks .opening ≠ .waiting
  /-- The other threads wait until it is their turn. -/
  due : ∀ thread, tasks thread ≠ .waiting → job.Due tasks thread
  /-- Only a worker is skipped, and only after another one has failed. -/
  skipped : ∀ thread, tasks thread = .skipped → thread.rank = 1 ∧
    ∃ other < job.modules, ∃ problem, tasks (.module other) = .failed problem

/-- What holds in every situation that a run comes to. -/
structure Valid (job : Job State) (situation : Situation State) : Prop
    extends Coherent job situation.tasks where
  /-- The events of a thread account for its task. -/
  accounts : ∀ thread, (situation.tasks thread).Accounts job.recording (job.plan thread) thread
    (situation.by thread)
  /-- The parts of the run follow each other. -/
  ordered : situation.events.Pairwise fun earlier later =>
    earlier.author.rank ≤ later.author.rank

theorem valid_start (job : Job State) (state : State) : job.Valid (job.start state) := by
  refine ⟨⟨by simp [start], ?_, ?_⟩, ?_, List.Pairwise.nil⟩
  · intro thread begun
    cases thread with
    | opening => trivial
    | module number => exact absurd rfl begun
    | closing => exact absurd rfl begun
  · intro thread skipped
    cases thread <;> cases skipped
  · intro thread
    cases thread with
    | opening => exact ⟨[], rfl, rfl, rfl⟩
    | module number => rfl
    | closing => rfl

section

variable {tasks : Thread → Task} {thread : Thread} {task : Task}

theorem finished_update (unrest : ¬(tasks thread).AtRest) {other : Thread}
    (finished : (tasks other).IsFinished) :
    (Function.update tasks thread task other).IsFinished := by
  have different : other ≠ thread := by
    rintro rfl
    rcases finished with ⟨notes, finished⟩
    rw [finished] at unrest
    exact unrest trivial
  simpa [different] using finished

theorem Due.update (unrest : ¬(tasks thread).AtRest) {other : Thread}
    (due : job.Due tasks other) : job.Due (Function.update tasks thread task) other := by
  cases other with
  | opening => trivial
  | module number => exact ⟨due.1, finished_update unrest due.2⟩
  | closing =>
      refine ⟨finished_update unrest due.1, ?_⟩
      intro module module_lt
      exact finished_update unrest (due.2 module module_lt)

/-- A thread that is not at rest may change its task when its turn has come. -/
theorem Coherent.update (coherent : job.Coherent tasks) (unrest : ¬(tasks thread).AtRest)
    (due : job.Due tasks thread) (started : task ≠ .waiting)
    (skipped : task = .skipped → thread.rank = 1 ∧
      ∃ other < job.modules, ∃ problem, tasks (.module other) = .failed problem) :
    job.Coherent (Function.update tasks thread task) := by
  constructor
  · by_cases same : .opening = thread
    · subst same
      simpa using started
    · simpa [same] using coherent.begun
  · intro other begun
    by_cases same : other = thread
    · subst same
      exact due.update unrest
    · exact (coherent.due other (by simpa [same] using begun)).update unrest
  · intro other other_skipped
    have failure : other.rank = 1 ∧ ∃ module < job.modules, ∃ problem,
        tasks (.module module) = .failed problem := by
      by_cases same : other = thread
      · subst same
        exact skipped (by simpa using other_skipped)
      · exact coherent.skipped other (by simpa [same] using other_skipped)
    rcases failure with ⟨worker, module, module_lt, problem, failed⟩
    refine ⟨worker, module, module_lt, problem, ?_⟩
    have different : .module module ≠ thread := by
      rintro rfl
      rw [failed] at unrest
      exact unrest trivial
    simpa [different] using failed

end

namespace Valid

variable {situation : Situation State} {thread : Thread} {remaining : Plan}
  {notes : Notes}

/-- A thread that has called something is no longer waiting. -/
theorem ne_waiting (valid : job.Valid situation) {event : Event}
    (event_mem : event ∈ situation.events) : situation.tasks event.author ≠ .waiting := by
  intro waiting
  have accounts := valid.accounts event.author
  rw [waiting] at accounts
  have by_mem := Situation.mem_by.mpr ⟨event_mem, rfl⟩
  rw [show situation.by event.author = [] from accounts] at by_mem
  cases by_mem

/-- No thread of a later part has begun while a thread is at work. -/
theorem rank_le_of_begun (valid : job.Valid situation)
    (working : situation.tasks thread = .working remaining notes) {other : Thread}
    (begun : situation.tasks other ≠ .waiting) : other.rank ≤ thread.rank := by
  have unfinished : ¬(situation.tasks thread).IsFinished := by
    rw [working]
    exact Task.not_isFinished_working
  have due := valid.due other begun
  cases other with
  | opening => exact Nat.zero_le _
  | module number =>
      cases thread with
      | opening => exact absurd due.2 unfinished
      | module _ => exact le_rfl
      | closing => simp [Thread.rank]
  | closing =>
      cases thread with
      | opening => exact absurd due.1 unfinished
      | module number =>
          have inside := (valid.due (.module number) (by simp [working])).1
          exact absurd (due.2 number inside) unfinished
      | closing => exact le_rfl

theorem advance (valid : job.Valid situation) {made : List Event} {task : Task} {state : State}
    (step : Task.Step job.sink job.recording thread (situation.tasks thread) situation.state
      made task state) :
    job.Valid ⟨Function.update situation.tasks thread task, situation.events ++ made, state⟩ := by
  rcases step.exists_working with ⟨remaining, notes, working⟩
  have unrest : ¬(situation.tasks thread).AtRest := by
    rw [working]
    exact not_false
  have due := valid.due thread (by simp [working])
  refine ⟨valid.update unrest due step.ne_waiting fun skipped => absurd skipped step.ne_skipped,
    ?_, ?_⟩
  · intro other
    rw [situation.by_append step.author_eq]
    by_cases same : other = thread
    · subst same
      simpa using step.accounts (valid.accounts other)
    · simpa [same] using valid.accounts other
  · rw [List.pairwise_append]
    refine ⟨valid.ordered, step.pairwise _, ?_⟩
    intro earlier earlier_mem later later_mem
    rw [step.author_eq later later_mem]
    exact valid.rank_le_of_begun working (valid.ne_waiting earlier_mem)

/-- A task that waits may be set to work from the beginning of its plan, or be skipped. -/
theorem leave_waiting (valid : job.Valid situation) {task : Task}
    (waiting : situation.tasks thread = .waiting) (started : task ≠ .waiting)
    (unworked : task.Accounts job.recording (job.plan thread) thread [])
    (due : job.Due situation.tasks thread)
    (skipped : task = .skipped → thread.rank = 1 ∧
      ∃ other < job.modules, ∃ problem, situation.tasks (.module other) = .failed problem) :
    job.Valid { situation with tasks := Function.update situation.tasks thread task } := by
  have unrest : ¬(situation.tasks thread).AtRest := by
    rw [waiting]
    exact not_false
  refine ⟨valid.update unrest due started skipped, ?_, valid.ordered⟩
  intro other
  change (Function.update situation.tasks thread task other).Accounts _ _ _ (situation.by other)
  by_cases same : other = thread
  · subst same
    have accounts := valid.accounts other
    rw [waiting] at accounts
    rw [Function.update_self, show situation.by other = [] from accounts]
    exact unworked
  · rw [Function.update_of_ne same]
    exact valid.accounts other

end Valid

theorem Step.valid {situation next : Situation State} (step : job.Step situation next)
    (valid : job.Valid situation) : job.Valid next := by
  cases step with
  | advance step => exact valid.advance step
  | begin module_lt opened waiting allowed =>
      exact valid.leave_waiting waiting (by simp) ⟨[], rfl, rfl, rfl⟩ ⟨module_lt, opened⟩ (by simp)
  | @skip module other problem module_lt waiting other_lt failed =>
      have opened := (valid.due (.module other) (by simp [failed])).2
      exact valid.leave_waiting waiting (by simp) rfl ⟨module_lt, opened⟩
        fun _ => ⟨rfl, other, other_lt, problem, failed⟩
  | join opened finished waiting =>
      exact valid.leave_waiting waiting (by simp) ⟨[], rfl, rfl, rfl⟩ ⟨opened, finished⟩ (by simp)

theorem Reaches.valid {state : State} {situation : Situation State}
    (reaches : job.Reaches state situation) : job.Valid situation := by
  induction reaches with
  | refl => exact valid_start job state
  | tail _ step ih => exact step.valid ih

end Job

end BenchTree

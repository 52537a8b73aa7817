import BenchTree.Generator
import BenchTree.Proofs.Tree.Calls

/-!
# Runs with one worker for each module

The main thread opens a run: it makes the root and writes the main source. Then each module has a
worker that carries out the module's plan on the common sink, where a single call is atomic. A
generator that may not work in parallel lets a worker begin only when those of all earlier modules
have finished; otherwise workers begin and take turns in any way. Once a worker has failed, those
that have not begun may be skipped, while the others go on. When all workers have finished, the
main thread closes the run with the descriptions of the executable; when they are at rest and one
has failed, the run ends with the failure of such a worker.

What the workers noted is put together in the order of the modules, and what they counted is added
up. The generator's own run, which takes the modules one after another, is one of the runs described
here.
-/

namespace BenchTree

/-- A thread of a run: the main thread before and after the workers, or the worker of a module. -/
inductive Thread where
  | opening
  | module (number : Nat)
  | closing
  deriving DecidableEq

/-- What has become of the plan that a thread is to carry out. -/
inductive Task where
  | waiting
  | working (remaining : Plan) (notes : Notes)
  | finished (notes : Notes)
  | failed (problem : IoError)
  | skipped

/-- A call made by a thread, and the sink's answer. -/
structure Event where
  author : Thread
  call : Call
  result : Except IoError Unit

namespace Task

/-- The task was carried out to its end. -/
def IsFinished (task : Task) : Prop := ∃ notes, task = .finished notes

/-- Nothing more will be done for the task. -/
def AtRest : Task → Prop
  | .waiting => False
  | .working _ _ => False
  | .finished _ => True
  | .failed _ => True
  | .skipped => True

/-- What was noted for a task that was carried out. -/
def notes : Task → Notes
  | .finished notes => notes
  | _ => .empty

@[simp]
theorem notes_finished (notes : Notes) : (finished notes).notes = notes := rfl

/-- One step of a thread at work: the task and the sink's state before, and behind them what was
called, the task and the state after it. -/
inductive Step {State : Type} (sink : Sink State) (recording : Bool) (author : Thread) :
    Task → State → List Event → Task → State → Prop where
  | note {more : Notes} {rest : Unit → Plan} {notes : Notes} {state : State} :
      Step sink recording author (.working (.step (.note more) rest) notes) state []
        (.working (rest ()) (notes.add recording more)) state
  | call {request : Call} {rest : Unit → Plan} {notes : Notes} {state next : State}
      (answer : sink.perform request state = (.ok (), next)) :
      Step sink recording author (.working (.step (.call request) rest) notes) state
        [⟨author, request, .ok ()⟩] (.working (rest ()) notes) next
  | failure {request : Call} {rest : Unit → Plan} {notes : Notes} {state next : State}
      {problem : IoError} (answer : sink.perform request state = (.error problem, next)) :
      Step sink recording author (.working (.step (.call request) rest) notes) state
        [⟨author, request, .error problem⟩] (.failed problem) next
  | finish {notes : Notes} {state : State} :
      Step sink recording author (.working .done notes) state [] (.finished notes) state

end Task

/-- What a run is to do. -/
structure Job (State : Type) where
  generator : Generator
  sink : Sink State
  root : Path
  recording : Bool

/-- Where a run stands: the tasks of its threads, the calls made so far, and the sink's state. -/
structure Situation (State : Type) where
  tasks : Thread → Task
  events : List Event
  state : State

namespace Job

variable {State : Type}

/-- The number of modules, each of which has a worker. -/
def modules (job : Job State) : Nat := job.generator.shape.modules

/-- The plan of a thread. -/
def plan (job : Job State) : Thread → Plan
  | .opening => Tree.openingPlan job.root job.generator.shape.modules
  | .module number => Tree.modulePlan job.root job.generator.shape job.generator.backends number
  | .closing =>
      Tree.rootDescriptionsPlan job.root job.generator.shape.modules job.generator.backends

/-- A run at its beginning. -/
def start (job : Job State) (state : State) : Situation State where
  tasks
    | .opening => .working (job.plan .opening) .empty
    | .module _ => .waiting
    | .closing => .waiting
  events := []
  state := state

/-- One step of a run. -/
inductive Step (job : Job State) : Situation State → Situation State → Prop where
  | advance {situation : Situation State} {thread : Thread} {made : List Event} {task : Task}
      {state : State}
      (step : Task.Step job.sink job.recording thread (situation.tasks thread) situation.state
        made task state) :
      Step job situation
        ⟨Function.update situation.tasks thread task, situation.events ++ made, state⟩
  | begin {situation : Situation State} {module : Nat} (inside : module < job.modules)
      (opened : (situation.tasks .opening).IsFinished)
      (waiting : situation.tasks (.module module) = .waiting)
      (allowed : job.generator.parallel = true ∨
        ∀ earlier < module, (situation.tasks (.module earlier)).IsFinished) :
      Step job situation { situation with
        tasks := Function.update situation.tasks (.module module)
          (.working (job.plan (.module module)) .empty) }
  | skip {situation : Situation State} {module other : Nat} {problem : IoError}
      (inside : module < job.modules) (waiting : situation.tasks (.module module) = .waiting)
      (otherInside : other < job.modules)
      (failed : situation.tasks (.module other) = .failed problem) :
      Step job situation { situation with
        tasks := Function.update situation.tasks (.module module) .skipped }
  | join {situation : Situation State} (opened : (situation.tasks .opening).IsFinished)
      (finished : ∀ module < job.modules, (situation.tasks (.module module)).IsFinished)
      (waiting : situation.tasks .closing = .waiting) :
      Step job situation { situation with
        tasks := Function.update situation.tasks .closing (.working (job.plan .closing) .empty) }

/-- The situations that a run can come to. -/
def Reaches (job : Job State) (state : State) (situation : Situation State) : Prop :=
  Relation.ReflTransGen job.Step (job.start state) situation

/-- The run is over in a situation, with the given result. -/
inductive Ends (job : Job State) (situation : Situation State) : Except IoError Unit → Prop where
  | openingFailed {problem : IoError} (failed : situation.tasks .opening = .failed problem) :
      Ends job situation (.error problem)
  | moduleFailed {module : Nat} {problem : IoError} (inside : module < job.modules)
      (failed : situation.tasks (.module module) = .failed problem)
      (atRest : ∀ other < job.modules, (situation.tasks (.module other)).AtRest) :
      Ends job situation (.error problem)
  | closingFailed {problem : IoError} (failed : situation.tasks .closing = .failed problem) :
      Ends job situation (.error problem)
  | finished (finished : (situation.tasks .closing).IsFinished) : Ends job situation (.ok ())

/-- What the workers noted, in the order of the modules. -/
def outputs (job : Job State) (situation : Situation State) : List Notes :=
  (List.range job.modules).map fun module => (situation.tasks (.module module)).notes

/-- What is noted in a run: all artifacts, and the headers and sources that the workers counted,
added up module by module. -/
def notes (job : Job State) (situation : Situation State) : Notes where
  artifacts := (situation.tasks .opening).notes.artifacts
    ++ (job.outputs situation).flatMap (fun output => output.artifacts.toList)
    ++ (situation.tasks .closing).notes.artifacts
  sources := (job.outputs situation).foldl
    (fun total output => Word.saturatingAdd total output.sources) 0

end Job

/-- A generator may end with a result and leave the sink in a state, for some order of the calls of
its workers. -/
def Generator.MayEnd {State : Type} (generator : Generator) (sink : Sink State) (root : Path)
    (recording : Bool) (state : State) (result : Except GenerateError Manifest)
    (final : State) : Prop :=
  match generator.shape.validate with
  | .error problem => result = .error (.shape problem) ∧ final = state
  | .ok () =>
      let job : Job State := ⟨generator, sink, root, recording⟩
      ∃ situation ending, job.Reaches state situation ∧ job.Ends situation ending ∧
        result = generator.conclude root ending (job.notes situation) ∧
        final = situation.state

/-- A shape that describes no tree is refused before the first call. -/
theorem Generator.MayEnd.eq_of_invalid {State : Type} {sink : Sink State} {generator : Generator}
    {root : Path} {recording : Bool} {initial final : State} {problem : ShapeError}
    {result : Except GenerateError Manifest}
    (mayEnd : generator.MayEnd sink root recording initial result final)
    (invalid : generator.shape.validate = .error problem) :
    result = .error (.shape problem) ∧ final = initial := by
  simp only [MayEnd, invalid] at mayEnd
  exact mayEnd

end BenchTree

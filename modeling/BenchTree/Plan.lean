import BenchTree.Sink
import BenchTree.Word

/-!
# Plans

A plan is the sequence of calls that a task makes, with notes of what is complete. Its rest is
built only when it is reached: a plan may be longer than any memory, as long as the sink fails
early enough. Carrying a plan out stops at the first call that fails. How a call is made is left
open: it may change a state that is told beforehand, or be made on a machine. `calls` is the plan's
meaning: the list of all calls, in order.
-/

namespace BenchTree

/-- What is noted besides the calls: the artifacts that are complete, and how many headers and
sources of modules are among them. -/
@[ext]
structure Notes where
  artifacts : Array Path
  sources : Nat

namespace Notes

/-- Nothing is noted yet. -/
def empty : Notes := ⟨#[], 0⟩

/--
Notes, and more behind them. Artifacts are kept only when `recording`, so that a long plan need not
keep them; headers and sources are counted in any case, up to the largest word. The files of one
module reach that limit in no run that comes to an end, so it matters only where modules add up.
-/
def add (recording : Bool) (notes more : Notes) : Notes where
  artifacts := if recording then notes.artifacts ++ more.artifacts else notes.artifacts
  sources := Word.saturatingAdd notes.sources more.sources

end Notes

/-- A step of a plan: a call, or the note that something is complete. -/
inductive Step where
  | call (request : Call)
  | note (more : Notes)

/-- A sequence of steps whose rest is built when it is reached. -/
inductive Plan where
  | done
  | step (first : Step) (rest : Unit → Plan)

/-- What became of a plan: its result, what was noted, and the sink's state. -/
structure Outcome (State : Type) where
  result : Except IoError Unit
  notes : Notes
  state : State

namespace Plan

/-- The plan that makes no call and notes that something is complete. -/
def note (more : Notes) : Plan := .step (.note more) fun _ => .done

/-- One plan after another; the second is built when the first is through. -/
def append : Plan → (Unit → Plan) → Plan
  | .done, next => next ()
  | .step first rest, next => .step first fun _ => (rest ()).append next

/-- The plans of `count` numbers from `start` on, one after another. -/
def each (body : Nat → Plan) (start : Nat) : Nat → Plan
  | 0 => .done
  | count + 1 => (body start).append fun _ => each body (start + 1) count

/-- The plans of the members of a list, one after another. -/
def forEach (body : Member → Plan) : List Member → Plan
  | [] => .done
  | first :: rest => (body first).append fun _ => forEach body rest

/-! ## What a plan contains -/

/-- What the steps of a plan bring, in order. -/
def gather (bring : Step → List Item) : Plan → List Item
  | .done => []
  | .step first rest => bring first ++ (rest ()).gather bring

/-- The calls of a plan. -/
def calls : Plan → List Call :=
  gather fun
    | .call request => [request]
    | .note _ => []

/-- The artifacts that a plan notes. -/
def artifacts : Plan → List Path :=
  gather fun
    | .call _ => []
    | .note more => more.artifacts.toList

/-- The numbers of headers and sources that a plan notes, one for each note. -/
def counts : Plan → List Nat :=
  gather fun
    | .call _ => []
    | .note more => [more.sources]

section

variable {bring : Step → List Item}

/-- What a plan brings comes before what the plan behind it brings. -/
theorem gather_append (plan : Plan) (next : Unit → Plan) :
    (plan.append next).gather bring = plan.gather bring ++ (next ()).gather bring := by
  induction plan with
  | done => rfl
  | step first rest inductionHypothesis => simp [append, gather, inductionHypothesis]

/-- Plans for numbers in a row bring what the plan for each number brings, one after another. -/
theorem gather_each (body : Nat → Plan) (start count : Nat) :
    (each body start count).gather bring =
      (List.range' start count).flatMap fun number => (body number).gather bring := by
  induction count generalizing start with
  | zero => rfl
  | succ count inductionHypothesis =>
    simp [each, gather_append, List.range'_succ, inductionHypothesis]

/-- Plans for the members of a list bring what the plan for each member brings, one after
another. -/
theorem gather_forEach (body : Member → Plan) (members : List Member) :
    (forEach body members).gather bring =
      members.flatMap fun member => (body member).gather bring := by
  induction members with
  | nil => rfl
  | cons first rest inductionHypothesis => simp [forEach, gather_append, inductionHypothesis]

end

@[simp]
theorem calls_done : done.calls = [] := rfl

@[simp]
theorem calls_call (request : Call) (rest : Unit → Plan) :
    (step (.call request) rest).calls = request :: (rest ()).calls := rfl

@[simp]
theorem calls_note (more : Notes) (rest : Unit → Plan) :
    (step (.note more) rest).calls = (rest ()).calls := rfl

@[simp]
theorem artifacts_done : done.artifacts = [] := rfl

@[simp]
theorem artifacts_call (request : Call) (rest : Unit → Plan) :
    (step (.call request) rest).artifacts = (rest ()).artifacts := rfl

@[simp]
theorem artifacts_note (more : Notes) (rest : Unit → Plan) :
    (step (.note more) rest).artifacts = more.artifacts.toList ++ (rest ()).artifacts := rfl

@[simp]
theorem counts_done : done.counts = [] := rfl

@[simp]
theorem counts_call (request : Call) (rest : Unit → Plan) :
    (step (.call request) rest).counts = (rest ()).counts := rfl

@[simp]
theorem counts_note (more : Notes) (rest : Unit → Plan) :
    (step (.note more) rest).counts = more.sources :: (rest ()).counts := rfl

@[simp]
theorem calls_append (plan : Plan) (next : Unit → Plan) :
    (plan.append next).calls = plan.calls ++ (next ()).calls := gather_append plan next

@[simp]
theorem artifacts_append (plan : Plan) (next : Unit → Plan) :
    (plan.append next).artifacts = plan.artifacts ++ (next ()).artifacts := gather_append plan next

@[simp]
theorem counts_append (plan : Plan) (next : Unit → Plan) :
    (plan.append next).counts = plan.counts ++ (next ()).counts := gather_append plan next

theorem calls_each (body : Nat → Plan) (start count : Nat) :
    (each body start count).calls =
      (List.range' start count).flatMap fun number => (body number).calls :=
  gather_each body start count

theorem artifacts_each (body : Nat → Plan) (start count : Nat) :
    (each body start count).artifacts =
      (List.range' start count).flatMap fun number => (body number).artifacts :=
  gather_each body start count

theorem calls_forEach (body : Member → Plan) (members : List Member) :
    (forEach body members).calls = members.flatMap fun member => (body member).calls :=
  gather_forEach body members

theorem artifacts_forEach (body : Member → Plan) (members : List Member) :
    (forEach body members).artifacts = members.flatMap fun member => (body member).artifacts :=
  gather_forEach body members

/-! ## Carrying a plan out -/

/-- Carries a plan out until it ends or a call fails; a call is made in the given way. -/
@[specialize]
def carryOut [Monad m] (make : Call → m (Except IoError Unit)) (recording : Bool) :
    Plan → Notes → m (Except IoError Unit × Notes)
  | .done, notes => return (.ok (), notes)
  | .step (.note more) rest, notes => (rest ()).carryOut make recording (notes.add recording more)
  | .step (.call request) rest, notes => do
      match ← make request with
      | .ok () => (rest ()).carryOut make recording notes
      | .error problem => return (.error problem, notes)

/-- Carries a plan out on a sink, until it ends or a call fails. -/
def perform (sink : Sink State) (recording : Bool) (plan : Plan) (notes : Notes)
    (state : State) : Outcome State :=
  let ((result, notes), state) :=
    (plan.carryOut (m := StateM State) sink.perform recording notes).run state
  ⟨result, notes, state⟩

section

variable (sink : Sink State) (recording : Bool) (notes : Notes) (state : State)

@[simp]
theorem perform_done : done.perform sink recording notes state = ⟨.ok (), notes, state⟩ := rfl

@[simp]
theorem perform_note (more : Notes) (rest : Unit → Plan) :
    (step (.note more) rest).perform sink recording notes state =
      (rest ()).perform sink recording (notes.add recording more) state := rfl

/-- A plan goes on behind a call that succeeds. -/
theorem perform_call (request : Call) (rest : Unit → Plan) :
    (step (.call request) rest).perform sink recording notes state =
      match sink.perform request state with
      | (.ok (), state) => (rest ()).perform sink recording notes state
      | (.error problem, state) => ⟨.error problem, notes, state⟩ := by
  rcases answer : sink.perform request state with ⟨_ | _, next⟩
  all_goals simp only [perform, carryOut, StateT.run, bind, StateT.bind, answer]
  rfl

/-- Noting artifacts changes neither the result nor what the sink becomes. -/
theorem perform_recording (plan : Plan) (left right : Bool) (leftNotes rightNotes : Notes) :
    (plan.perform sink left leftNotes state).result =
        (plan.perform sink right rightNotes state).result ∧
      (plan.perform sink left leftNotes state).state =
        (plan.perform sink right rightNotes state).state := by
  induction plan generalizing leftNotes rightNotes state with
  | done => exact ⟨rfl, rfl⟩
  | step first rest inductionHypothesis =>
    cases first with
    | note more => exact inductionHypothesis () state _ _
    | call request =>
      simp only [perform_call]
      split
      · exact inductionHypothesis () _ _ _
      · exact ⟨rfl, rfl⟩

/-- A plan behind another one is carried out only when the first one ends without failure. -/
theorem perform_append (plan : Plan) (next : Unit → Plan) :
    (plan.append next).perform sink recording notes state =
      match plan.perform sink recording notes state with
      | ⟨.ok (), notes, state⟩ => (next ()).perform sink recording notes state
      | failed => failed := by
  induction plan generalizing notes state with
  | done => rfl
  | step first rest inductionHypothesis =>
    cases first with
    | note more => exact inductionHypothesis () _ state
    | call request =>
      simp only [append, perform_call]
      split
      · exact inductionHypothesis () notes _
      · rfl

end

end Plan

end BenchTree

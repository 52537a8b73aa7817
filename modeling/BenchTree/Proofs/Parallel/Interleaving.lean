import BenchTree.Proofs.Parallel.Calls
import BenchTree.Proofs.Parallel.Sequential

/-!
# Every interleaving is a run

The workers of a generator that may work in parallel are free: for every order of all calls of the
modules that keeps the order within each module, there is a run on a store which makes exactly the
calls of that order, between those that open and those that close a run. First all workers begin.
Then the calls are made as the order says; a worker notes artifacts just before its next call.
When all calls are made the workers finish, and the run is closed.
-/

namespace BenchTree

namespace Tree

/-- Calls of the modules, each with its module, in some order that keeps the order of each module's
own calls. -/
structure Interleaves (root : Path) (shape : Shape) (backends : List Backend)
    (order : List (Nat × Call)) : Prop where
  inside : ∀ entry ∈ order, entry.1 < shape.modules
  ordered : ∀ module < shape.modules,
    (order.filter fun entry => entry.1 = module).map Prod.snd =
      (modulePlan root shape backends module).calls

/-- The modules' calls between those that open and those that close a run. -/
def enclose (root : Path) (shape : Shape) (backends : List Backend)
    (order : List (Nat × Call)) : List Call :=
  (openingPlan root shape.modules).calls ++ order.map Prod.snd
    ++ (rootDescriptionsPlan root shape.modules backends).calls

end Tree

theorem Plan.perform_store (plan : Plan) (recording : Bool) (notes : Notes)
    (store : Store) :
    ∃ noted, plan.perform Store.sink recording notes store =
      ⟨.ok (), noted, store.after plan.calls⟩ := by
  induction plan generalizing notes store with
  | done => exact ⟨notes, rfl⟩
  | step first rest ih =>
      cases first with
      | note more => exact ih () _ store
      | call request =>
          simp only [perform_call, Store.perform_sink]
          exact ih () notes (store.carryOut request)

namespace Job

variable {job : Job Store}

/-- A worker goes on to its next call and makes it. -/
theorem reaches_call (accepting : job.sink = Store.sink) (situation : Situation Store)
    {thread : Thread} {remaining : Plan} {notes : Notes}
    (working : situation.tasks thread = .working remaining notes)
    {call : Call} {rest : List Call} (calls_eq : remaining.calls = call :: rest) :
    ∃ later noted events, later.calls = rest ∧
      Relation.ReflTransGen job.Step situation
        ⟨Function.update situation.tasks thread (.working later noted), events,
          situation.state.carryOut call⟩ := by
  induction remaining generalizing situation notes with
  | done => cases calls_eq
  | step first next ih =>
      cases first with
      | note more =>
          let remembered := notes.add job.recording more
          have step : Task.Step job.sink job.recording thread (situation.tasks thread)
              situation.state [] (.working (next ()) remembered) situation.state := by
            rw [working]
            exact .note
          rcases ih () ⟨Function.update situation.tasks thread (.working (next ()) remembered),
            situation.events ++ [], situation.state⟩ (Function.update_self ..) calls_eq with
            ⟨later, noted, events, later_calls, reaches⟩
          exact ⟨later, noted, events, later_calls, reaches_advance step reaches⟩
      | call request =>
          rcases List.cons.inj calls_eq with ⟨rfl, later_calls⟩
          have step : Task.Step job.sink job.recording thread (situation.tasks thread)
              situation.state [⟨thread, request, .ok ()⟩] (.working (next ()) notes)
              (situation.state.carryOut request) := by
            rw [working, accepting]
            exact .call (Store.perform_sink _ _)
          exact ⟨next (), notes, _, later_calls, .single (.advance step)⟩

/-- The run is opened, and what the workers are still to call is what the order says. -/
structure Pending (job : Job Store) (situation : Situation Store)
    (order : List (Nat × Call)) : Prop where
  opened : (situation.tasks .opening).IsFinished
  unclosed : situation.tasks .closing = .waiting
  pending : ∀ module < job.modules, ∃ remaining notes,
    situation.tasks (.module module) = .working remaining notes ∧
      remaining.calls = (order.filter fun entry => entry.1 = module).map Prod.snd

/-- All workers may begin before any of them makes a call. -/
theorem reaches_pending (job : Job Store) (parallel : job.generator.parallel = true)
    (situation : Situation Store) (opened : (situation.tasks .opening).IsFinished)
    (unclosed : situation.tasks .closing = .waiting)
    (waiting : ∀ module, situation.tasks (.module module) = .waiting)
    {order : List (Nat × Call)} (interleaves : Tree.Interleaves job.root job.generator.shape
      job.generator.backends order) :
    ∃ next, Relation.ReflTransGen job.Step situation next ∧ next.state = situation.state ∧
      Pending job next order := by
  let holds (bound : Nat) (next : Situation Store) : Prop :=
    next.state = situation.state ∧ (next.tasks .opening).IsFinished ∧
      next.tasks .closing = .waiting ∧
      (∀ module < bound, next.tasks (.module module) =
        .working (job.plan (.module module)) .empty) ∧
      ∀ module, bound ≤ module → next.tasks (.module module) = .waiting
  have first : holds 0 situation := ⟨rfl, opened, unclosed, by simp, fun module _ => waiting module⟩
  have turn : ∀ begun next, 0 ≤ begun → begun < job.modules → holds begun next →
      ∃ later, Relation.ReflTransGen job.Step next later ∧ holds (begun + 1) later := by
    rintro begun next _ begun_lt ⟨state_eq, opened, unclosed, working, waiting⟩
    refine ⟨_, .single (.begin begun_lt opened (waiting begun le_rfl) (.inl parallel)),
      state_eq, by simpa using opened, by simpa using unclosed, ?_, ?_⟩
    · intro module module_lt
      by_cases same : module = begun
      · simp [same]
      · simpa [same] using working module (by omega)
    · intro module module_ge
      have different : module ≠ begun := by omega
      simpa [different] using waiting module (by omega)
  rcases reaches_in_turn job holds (Nat.zero_le _) turn first with
    ⟨next, reaches, state_eq, opened, unclosed, working, _⟩
  refine ⟨next, reaches, state_eq, opened, unclosed, ?_⟩
  intro module module_lt
  exact ⟨_, _, working module module_lt, (interleaves.ordered module module_lt).symm⟩

/-- The workers may make their calls as the order says. -/
theorem Pending.reaches (accepting : job.sink = Store.sink) {order : List (Nat × Call)}
    (inside : ∀ entry ∈ order, entry.1 < job.modules) {situation : Situation Store}
    (pending : Pending job situation order) :
    ∃ next, Relation.ReflTransGen job.Step situation next ∧
      next.state = situation.state.after (order.map Prod.snd) ∧ Pending job next [] := by
  induction order generalizing situation with
  | nil => exact ⟨situation, .refl, rfl, pending⟩
  | cons entry rest ih =>
      rcases entry with ⟨author, call⟩
      rcases pending.pending author (inside _ List.mem_cons_self) with
        ⟨remaining, notes, working, calls_eq⟩
      rw [List.filter_cons_of_pos (by simp), List.map_cons] at calls_eq
      rcases reaches_call accepting situation working calls_eq with
        ⟨later, noted, events, later_calls, called⟩
      have next_pending : Pending job ⟨Function.update situation.tasks (.module author)
          (.working later noted), events, situation.state.carryOut call⟩ rest := by
        refine ⟨by simpa using pending.opened, by simpa using pending.unclosed, ?_⟩
        intro module module_lt
        by_cases same : module = author
        · subst same
          exact ⟨later, noted, Function.update_self .., later_calls⟩
        · rcases pending.pending module module_lt with ⟨other, others, other_working, other_calls⟩
          refine ⟨other, others, by simpa [same] using other_working, ?_⟩
          rw [other_calls, List.filter_cons_of_neg (by simpa using Ne.symm same)]
      rcases ih (fun entry entry_mem => inside entry (List.mem_cons_of_mem _ entry_mem))
        next_pending with ⟨next, reaches, state_eq, finished⟩
      exact ⟨next, called.trans reaches, state_eq, finished⟩

/-- When there is nothing left to call, the workers may finish one after another. -/
theorem Pending.reaches_finished (accepting : job.sink = Store.sink) {situation : Situation Store}
    (pending : Pending job situation []) :
    ∃ next, Relation.ReflTransGen job.Step situation next ∧ next.state = situation.state ∧
      (next.tasks .opening).IsFinished ∧ next.tasks .closing = .waiting ∧
      ∀ module < job.modules, (next.tasks (.module module)).IsFinished := by
  let holds (bound : Nat) (next : Situation Store) : Prop :=
    next.state = situation.state ∧ (next.tasks .opening).IsFinished ∧
      next.tasks .closing = .waiting ∧
      (∀ module < bound, (next.tasks (.module module)).IsFinished) ∧
      ∀ module, bound ≤ module → module < job.modules → ∃ remaining notes,
        next.tasks (.module module) = .working remaining notes ∧ remaining.calls = []
  have first : holds 0 situation := ⟨rfl, pending.opened, pending.unclosed, by simp,
    fun module _ module_lt => pending.pending module module_lt⟩
  have turn : ∀ idle next, 0 ≤ idle → idle < job.modules → holds idle next →
      ∃ later, Relation.ReflTransGen job.Step next later ∧ holds (idle + 1) later := by
    rintro idle next _ idle_lt ⟨state_eq, opened, unclosed, finished, working⟩
    rcases working idle le_rfl idle_lt with ⟨remaining, notes, idle_working, no_calls⟩
    rcases remaining.perform_store job.recording notes next.state with ⟨noted, performed⟩
    rw [no_calls, Store.after_nil, ← accepting] at performed
    rcases reaches_perform job next idle_working performed with ⟨events, finish⟩
    refine ⟨_, finish, state_eq, by simpa using opened, by simpa using unclosed, ?_, ?_⟩
    · intro module module_lt
      by_cases same : module = idle
      · exact ⟨noted, by simp [same, Outcome.task]⟩
      · simpa [same] using finished module (by omega)
    · intro module module_ge module_lt
      have different : module ≠ idle := by omega
      simpa [different] using working module (by omega) module_lt
  rcases reaches_in_turn job holds (Nat.zero_le _) turn first with
    ⟨next, reaches, state_eq, opened, unclosed, finished, _⟩
  exact ⟨next, reaches, state_eq, opened, unclosed, finished⟩

end Job

/-- Every interleaving of the modules' calls is made by some run. -/
theorem Generator.exists_mayEnd (generator : Generator) (parallel : generator.parallel = true)
    (valid : generator.shape.validate = .ok ()) {root : Path} {order : List (Nat × Call)}
    (interleaves : Tree.Interleaves root generator.shape generator.backends order)
    (recording : Bool) (store : Store) :
    ∃ result, generator.MayEnd Store.sink root recording store result
      (store.after (Tree.enclose root generator.shape generator.backends order)) := by
  let job : Job Store := ⟨generator, Store.sink, root, recording⟩
  rcases (job.plan .opening).perform_store recording .empty store with ⟨noted, opening⟩
  rcases job.reaches_opening store opening with ⟨events, opened⟩
  let ready : Situation Store := ⟨Function.update (job.start store).tasks .opening
    (.finished noted), events, store.after (job.plan .opening).calls⟩
  rcases job.reaches_pending parallel ready ⟨noted, rfl⟩ rfl (fun _ => rfl) interleaves with
    ⟨begun, begin_reaches, begun_state, pending⟩
  rcases pending.reaches rfl interleaves.inside with ⟨called, call_reaches, called_state, idle⟩
  rcases idle.reaches_finished rfl with
    ⟨last, finish_reaches, last_state, last_opened, unclosed, finished⟩
  rcases (job.plan .closing).perform_store recording .empty last.state with ⟨described, closed⟩
  rcases job.reaches_closing last_opened finished unclosed closed with
    ⟨allEvents, close_reaches⟩
  have reaches := (opened.trans begin_reaches).trans (call_reaches.trans
    (finish_reaches.trans close_reaches))
  simp only [MayEnd, valid]
  refine ⟨_, _, _, reaches, job.ends_closing _ _ _, rfl, ?_⟩
  rw [last_state, called_state, begun_state]
  simp [Tree.enclose, ready, Job.plan, job]

end BenchTree

import BenchTree.Generator
import BenchTree.Proofs.Tree.Calls

/-!
# Runs that are interrupted

A run makes the calls of its plan one after another and stops at the first one that is refused. So
when the sink refuses a single call, the calls made are those of the unfailing run up to and with
the refused one, wherever in the nested loops that call belongs. A shape that describes no tree is
refused before the first call; in particular no source is asked for in a module without files.
-/

namespace BenchTree

variable {State : Type}

/-- A sink that keeps the calls it is given and refuses call number `failAt`, which it keeps too.
What else it stores may depend on the calls in any way. -/
def Sink.failing (failAt : Option Nat) (problem : IoError)
    (effect : Except IoError Unit → Call → State → State) : Sink (List Call × State) where
  perform call := fun (made, state) =>
    let result := if failAt = some made.length then .error problem else .ok ()
    (result, made ++ [call], effect result call state)

namespace Plan

variable (problem : IoError) (effect : Except IoError Unit → Call → State → State)

/-- A refusal behind the calls of a plan is not noticed by the plan. -/
theorem perform_failing_of_le {failAt : Option Nat} (plan : Plan) (recording : Bool)
    (notes : Notes) {made : List Call} {state : State}
    (behind : ∀ refused, failAt = some refused → made.length + plan.calls.length ≤ refused) :
    plan.perform (Sink.failing failAt problem effect) recording notes (made, state) =
      plan.perform (Sink.failing none problem effect) recording notes (made, state) := by
  induction plan generalizing notes made state with
  | done => rfl
  | step first rest ih =>
      cases first with
      | note more => exact ih () _ behind
      | call request =>
          have later : ∀ refused, failAt = some refused →
              (made ++ [request]).length + (rest ()).calls.length ≤ refused := by
            intro refused fails
            have bound := behind refused fails
            simp only [calls_call, List.length_cons] at bound
            simp only [List.length_append, List.length_singleton]
            omega
          have accepted : failAt ≠ some made.length := by
            intro fails
            have bound := behind _ fails
            simp at bound
          simp only [perform_call, Sink.failing, accepted, if_false, reduceCtorEq]
          exact ih () notes later

/-- When nothing is refused, a plan makes all of its calls. -/
theorem perform_failing_none (plan : Plan) (recording : Bool) (notes : Notes)
    (made : List Call) (state : State) :
    (plan.perform (Sink.failing none problem effect) recording notes
        (made, state)).result = .ok () ∧
      (plan.perform (Sink.failing none problem effect) recording notes
        (made, state)).state.1 = made ++ plan.calls := by
  induction plan generalizing notes made state with
  | done => simp
  | step first rest ih =>
      cases first with
      | note more => exact ih () _ made state
      | call request =>
          simp only [perform_call, Sink.failing, reduceCtorEq, if_false]
          rcases ih () notes (made ++ [request]) _ with ⟨result, calls_made⟩
          refine ⟨result, calls_made.trans ?_⟩
          simp

/-- A plan stops at the call that is refused. -/
theorem perform_failing_some {refused : Nat} (plan : Plan) (recording : Bool)
    (notes : Notes) (made : List Call) (state : State) {index : Nat}
    (position : refused = made.length + index) (index_lt : index < plan.calls.length) :
    (plan.perform (Sink.failing (some refused) problem effect) recording notes
        (made, state)).result = .error problem ∧
      (plan.perform (Sink.failing (some refused) problem effect) recording notes
        (made, state)).state.1 = made ++ plan.calls.take (index + 1) := by
  induction plan generalizing notes made state index with
  | done => simp at index_lt
  | step first rest ih =>
      cases first with
      | note more => exact ih () _ made state position index_lt
      | call request =>
          cases index with
          | zero => simp [perform_call, Sink.failing, position]
          | succ index =>
              have accepted : some refused ≠ some made.length := by
                simp [position]
              have next_position : refused = (made ++ [request]).length + index := by
                rw [position, List.length_append, List.length_singleton]
                omega
              simp only [calls_call, List.length_cons, Nat.add_lt_add_iff_right] at index_lt
              simp only [perform_call, Sink.failing, accepted, if_false]
              rcases ih () notes (made ++ [request]) _ next_position index_lt with
                ⟨result, calls_made⟩
              refine ⟨result, calls_made.trans ?_⟩
              simp

/-- Whatever is refused, only calls of the plan are made. -/
theorem mem_calls_of_failing {failAt : Option Nat} (plan : Plan) (recording : Bool)
    (notes : Notes) (state : State) {call : Call}
    (call_mem : call ∈ (plan.perform (Sink.failing failAt problem effect) recording notes
      ([], state)).state.1) : call ∈ plan.calls := by
  by_cases reached : ∃ refused < plan.calls.length, failAt = some refused
  · rcases reached with ⟨refused, refused_lt, rfl⟩
    rw [(perform_failing_some problem effect plan recording notes [] state (by simp)
      refused_lt).2] at call_mem
    exact List.mem_of_mem_take call_mem
  · push Not at reached
    have behind : ∀ refused, failAt = some refused →
        ([] : List Call).length + plan.calls.length ≤ refused := by
      intro refused fails
      by_contra before
      exact reached refused (by simpa using before) fails
    rw [perform_failing_of_le problem effect plan recording notes behind,
      (perform_failing_none problem effect plan recording notes [] state).2] at call_mem
    exact call_mem

end Plan

namespace Generator

theorem state_run_recording (generator : Generator) (sink : Sink State) (root : Path)
    (recording : Bool) (state : State) :
    (generator.run sink root recording state).2 = (generator.run sink root false state).2 := by
  cases validation : generator.shape.validate with
  | error problem => rw [run_of_invalid validation, run_of_invalid validation]
  | ok _ =>
      rw [run_of_valid validation, run_of_valid validation]
      exact (Plan.perform_recording sink state (generator.plan root) recording false _ _).2

end Generator

/-- A source is asked for only in a module with files. -/
theorem Tree.source?_of_mem_calls_plan {root : Path} {shape : Shape} {backends : List Backend}
    {module file : Nat} {text : String}
    (written : Call.writeFile ((Artifact.source module file).path root) text ∈
      (plan root shape backends).calls) : Source.source? module file shape = .ok text := by
  rcases writeFile_mem_calls_plan.mp written with ⟨artifact, belongs, path_eq, rfl⟩
  have artifact_eq : Artifact.source module file = artifact :=
    Artifact.eq_of_same_path (congrArg Path.components path_eq)
  subst artifact_eq
  have hasFiles : shape.filesPerModule ≠ 0 := Nat.ne_zero_of_lt belongs.2
  simp [Source.source?, hasFiles, Artifact.text]

/-- When one call is refused, the calls made are the first ones of the unfailing run, and the
refusal is the result; a refusal that comes too late changes nothing. Shapes that describe no tree
are refused without any call. -/
theorem interrupted_run (shape : Shape) (backends : List Backend) (root : Path)
    (problem : IoError) (effect : Except IoError Unit → Call → State → State) (state : State) :
    let run := fun (failAt : Option Nat) (recording : Bool) =>
      (Generator.create shape backends false).run (Sink.failing failAt problem effect) root
        recording ([], state)
    let total := 2 + shape.modules * (1 + 2 * shape.filesPerModule +
      (Backend.distinct backends).length) + (Backend.distinct backends).length
    (∀ failAt recording,
      (shape.filesPerModule = 0 → run failAt recording = (.error (.shape .noFiles), [], state)) ∧
      (0 < shape.filesPerModule → shape.modules = 0 →
        run failAt recording = (.error (.shape .noModules), [], state)) ∧
      (run failAt recording).2 = (run failAt false).2 ∧
      ∀ module file text,
        Call.writeFile ((Artifact.source module file).path root) text ∈
          (run failAt recording).2.1 → Source.source? module file shape = .ok text) ∧
    (0 < shape.filesPerModule → 0 < shape.modules → ∀ recording,
      (∃ manifest, (run none recording).1 = .ok manifest) ∧
      (run none recording).2.1.length = total ∧
      ∀ index,
        (total ≤ index → run (some index) recording = run none recording) ∧
        (index < total → (run (some index) recording).1 = .error (.storage problem) ∧
          (run (some index) recording).2.1 = (run none recording).2.1.take (index + 1))) := by
  intro run total
  have calls_length : (Tree.plan root shape (Backend.distinct backends)).calls.length = total :=
    Tree.length_calls_plan root shape (Backend.distinct backends)
  constructor
  · intro failAt recording
    refine ⟨?_, ?_, ?_, ?_⟩
    · intro noFiles
      exact Generator.run_of_invalid (by simp [Generator.create, Shape.validate, noFiles]) _ _ _ _
    · intro hasFiles noModules
      exact Generator.run_of_invalid
        (by simp [Generator.create, Shape.validate, noModules, hasFiles.ne']) _ _ _ _
    · exact Generator.state_run_recording _ _ _ _ _
    · intro module file text written
      cases validation : (Generator.create shape backends false).shape.validate with
      | error refusal => simp [run, Generator.run_of_invalid validation] at written
      | ok _ =>
          simp only [run, Generator.run_of_valid validation] at written
          exact Tree.source?_of_mem_calls_plan (Plan.mem_calls_of_failing _ _ _ _ _ _ written)
  · intro hasFiles hasModules recording
    have valid : (Generator.create shape backends false).shape.validate = .ok () :=
      shape.validate_eq_ok_iff.mpr ⟨hasFiles, hasModules⟩
    have plan_eq : (Generator.create shape backends false).plan root =
        Tree.plan root shape (Backend.distinct backends) := rfl
    rcases Plan.perform_failing_none problem effect
      (Tree.plan root shape (Backend.distinct backends)) recording .empty [] state with
      ⟨unfailing_result, unfailing_calls⟩
    simp only [run, Generator.run_of_valid valid, plan_eq]
    refine ⟨⟨_, by rw [unfailing_result]; rfl⟩, ?_, ?_⟩
    · rw [unfailing_calls, List.nil_append, calls_length]
    · intro index
      constructor
      · intro index_ge
        rw [Plan.perform_failing_of_le _ _ _ _ _ (by simpa [calls_length] using index_ge)]
      · intro index_lt
        rcases Plan.perform_failing_some problem effect
          (Tree.plan root shape (Backend.distinct backends)) recording .empty [] state
          (Nat.zero_add index).symm (calls_length ▸ index_lt) with ⟨result, calls_made⟩
        rw [result, calls_made, unfailing_calls]
        exact ⟨rfl, rfl⟩

theorem interrupted_run_at_fifth_call :
    let run := (Generator.create ⟨2, 1, 1⟩ [.cmake, .cmake] false).run
      (Sink.failing (some 4) .diskFull fun _ _ state => state) ⟨"out"⟩ true ([], ())
    run.1 = .error (.storage .diskFull) ∧ run.2.1.length = 5 := by
  rcases interrupted_run ⟨2, 1, 1⟩ [.cmake, .cmake] ⟨"out"⟩ .diskFull (fun _ _ state => state)
    () with ⟨_, accepted⟩
  rcases accepted (by decide) (by decide) true with ⟨_, unfailing_length, interrupted⟩
  rcases (interrupted 4).2 (by decide) with ⟨result, calls_made⟩
  refine ⟨result, ?_⟩
  rw [calls_made, List.length_take, unfailing_length]
  decide

end BenchTree

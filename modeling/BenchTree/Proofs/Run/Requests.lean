import BenchTree.Proofs.Disk.Agreement
import BenchTree.Proofs.Disk.Completion

/-!
# Runs as requests in a row

A generator that takes the modules one after another makes the calls of its plan in their order. So
its own run completes exactly when these calls, made one by one as requests, all succeed, and it
leaves the same state behind.
-/

namespace BenchTree

variable {State : Type} {sink : Sink State}

theorem Sink.performs_request_iff {call : Call} {rest : List Operation} {state final : State} :
    sink.Performs state (.request call :: rest) final ↔
      ∃ next, sink.perform call state = (.ok (), next) ∧ sink.Performs next rest final := by
  constructor
  · intro performs
    cases performs with
    | cons first later =>
        cases first with
        | request answer => exact ⟨_, answer, later⟩
  · rintro ⟨next, answer, later⟩
    exact .cons (.request answer) later

/-- A plan is carried out exactly when its calls succeed one after another. -/
theorem Plan.performs_iff (plan : Plan) (recording : Bool) (notes : Notes)
    {state final : State} :
    sink.Performs state (plan.calls.map .request) final ↔
      (plan.perform sink recording notes state).result = .ok () ∧
        (plan.perform sink recording notes state).state = final := by
  induction plan generalizing notes state with
  | done =>
      constructor
      · rintro ⟨⟩
        exact ⟨rfl, rfl⟩
      · rintro ⟨_, rfl⟩
        exact .nil
  | step first rest ih =>
      cases first with
      | note more => exact ih () _
      | call request =>
          rcases answer : sink.perform request state with ⟨result, next⟩
          simp only [calls_call, List.map_cons, perform_call, Sink.performs_request_iff, answer]
          cases result with
          | error problem =>
              constructor
              · rintro ⟨_, accepted, _⟩
                cases (Prod.mk.inj accepted).1
              · rintro ⟨succeeded, _⟩
                cases succeeded
          | ok _ =>
              rw [← ih () notes]
              constructor
              · rintro ⟨_, accepted, later⟩
                rwa [(Prod.mk.inj accepted).2]
              · exact fun later => ⟨next, rfl, later⟩

namespace Generator

variable {shape : Shape} {backends : List Backend} {parallel recording : Bool} {root : Path}
  {initial final generated : State} {manifest : Manifest}

/-- The generator's own run completes exactly when all calls succeed in their order. -/
theorem performs_iff (valid : shape.validate = .ok ()) (recording : Bool) :
    sink.Performs initial (((create shape backends parallel).plan root).calls.map .request)
        generated ↔
      ∃ manifest, (create shape backends parallel).run sink root recording initial =
        (.ok manifest, generated) := by
  have create_valid : (create shape backends parallel).shape.validate = .ok () := valid
  rw [Plan.performs_iff _ recording .empty]
  simp only [run_of_valid create_valid]
  constructor
  · rintro ⟨succeeded, rfl⟩
    rw [succeeded]
    exact ⟨_, rfl⟩
  · rintro ⟨manifest, run_eq⟩
    obtain ⟨concluded, rfl⟩ := Prod.mk.inj run_eq
    refine ⟨?_, rfl⟩
    cases ended : ((create shape backends parallel).plan root).perform sink recording .empty
        initial |>.result with
    | error problem =>
        rw [ended] at concluded
        cases concluded
    | ok _ => rfl

/-- The counts of every completed run are those of the one manifest. -/
theorem MayEnd.summary_eq
    (mayEnd : (create shape backends parallel).MayEnd sink root recording initial (.ok manifest)
      final) : manifest.summary = (completeManifest shape backends false).summary := by
  rw [mayEnd.exists_replays.2.1]
  exact summary_manifest (create shape backends parallel) root recording

/-- Every completed run that notes artifacts ends with the one manifest. -/
theorem MayEnd.manifest_eq
    (mayEnd : (create shape backends parallel).MayEnd sink root true initial (.ok manifest)
      final) : manifest = completeManifest shape backends false := by
  rw [mayEnd.exists_replays.2.1]
  exact Generator.manifest_eq shape backends parallel root

end Generator

end BenchTree

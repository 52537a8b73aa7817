import BenchTree.Proofs.Run.Discipline

/-!
# How a run opens

The calls of a run can be taken apart at any point, as the sink answers them one after another. The
first one makes the root. Only when that was done the main source is written, and only when that was
done as well the workers begin.
-/

namespace BenchTree

section

variable {State : Type} {sink : Sink State} {initial final : State}

theorem Sink.Replays.eq_of_nil (replays : sink.Replays initial [] final) : final = initial := by
  generalize none : ([] : List Event) = events at replays
  cases replays with
  | nil => rfl
  | snoc _ _ => simp at none

theorem Sink.Replays.of_snoc {earlier : List Event} {last : Event}
    (replays : sink.Replays initial (earlier ++ [last]) final) :
    ∃ state, sink.Replays initial earlier state ∧
      sink.perform last.call state = (last.result, final) := by
  generalize events_eq : earlier ++ [last] = events at replays
  cases replays with
  | nil => simp at events_eq
  | snoc before answer =>
      obtain ⟨rfl, same⟩ := List.append_inj' events_eq rfl
      obtain rfl := List.singleton_inj.mp same
      exact ⟨_, before, answer⟩

theorem Sink.Replays.of_append {front rest : List Event}
    (replays : sink.Replays initial (front ++ rest) final) :
    ∃ middle, sink.Replays initial front middle ∧ sink.Replays middle rest final := by
  induction rest using List.reverseRecOn generalizing final with
  | nil =>
      rw [List.append_nil] at replays
      exact ⟨final, replays, .nil⟩
  | append_singleton earlier last ih =>
      rw [← List.append_assoc] at replays
      rcases replays.of_snoc with ⟨state, before, answer⟩
      rcases ih before with ⟨middle, first, second⟩
      exact ⟨middle, first, second.snoc answer⟩

theorem Sink.Replays.of_cons {first : Event} {rest : List Event}
    (replays : sink.Replays initial (first :: rest) final) :
    ∃ middle, sink.perform first.call initial = (first.result, middle) ∧
      sink.Replays middle rest final := by
  change sink.Replays initial ([first] ++ rest) final at replays
  rcases replays.of_append with ⟨middle, single, others⟩
  change sink.Replays initial ([] ++ [first]) middle at single
  rcases single.of_snoc with ⟨state, none, answer⟩
  rw [none.eq_of_nil] at answer
  exact ⟨middle, answer, others⟩

end

namespace Job.Valid

variable {State : Type} {job : Job State} {situation : Situation State} {first second : Event}
  {rest : List Event}

/-- Only the main thread is at work until all that opens a run was carried out. -/
theorem author_eq_opening (valid : job.Valid situation) {before after : List Event} {event : Event}
    (events_eq : situation.events = before ++ event :: after) {call : Call}
    (call_mem : call ∈ (job.plan .opening).calls)
    (missing : (⟨.opening, call, .ok ()⟩ : Event) ∉ before) : event.author = .opening := by
  have event_mem : event ∈ situation.events := by simp [events_eq]
  have begun := valid.ne_waiting event_mem
  have made : (situation.tasks .opening).IsFinished → 0 < event.author.rank →
      (⟨.opening, call, .ok ()⟩ : Event) ∈ before := fun opened later =>
    valid.mem_before_of_finished events_eq opened later call_mem
  cases author : event.author with
  | opening => rfl
  | module number =>
      rw [author] at begun made
      exact absurd (made (valid.due (.module number) begun).2 Nat.one_pos) missing
  | closing =>
      rw [author] at begun made
      exact absurd (made (valid.due .closing begun).1 Nat.two_pos) missing

/-- Nothing is called before the root is made. -/
theorem first_eq (valid : job.Valid situation) (events_eq : situation.events = first :: rest) :
    first.author = .opening ∧ first.call = .createDirectory job.root := by
  have opened : situation.events = [] ++ first :: rest := events_eq
  have root_mem : .createDirectory job.root ∈ (job.plan .opening).calls := by
    simp [plan, Tree.calls_openingPlan]
  have author := valid.author_eq_opening opened root_mem List.not_mem_nil
  refine ⟨author, ?_⟩
  rcases (valid.split opened).2 with ⟨others, plan_calls⟩
  rw [author, plan, Tree.calls_openingPlan] at plan_calls
  exact (List.cons.inj plan_calls).1.symm

/-- The main source is written next, when the root was made. -/
theorem second_eq (valid : job.Valid situation)
    (events_eq : situation.events = first :: second :: rest) :
    first.result = .ok () ∧ second.call = Artifact.main.call job.root job.generator.shape := by
  rcases valid.first_eq events_eq with ⟨first_author, first_call⟩
  have missing : (⟨.opening, Artifact.main.call job.root job.generator.shape, .ok ()⟩ : Event) ∉
      [first] := by
    intro written
    rw [← List.mem_singleton.mp written] at first_call
    cases first_call
  have opened : situation.events = [first] ++ second :: rest := events_eq
  have author := valid.author_eq_opening opened (by simp [plan, Tree.calls_openingPlan]) missing
  rcases valid.split opened with ⟨succeeded, others, plan_calls⟩
  refine ⟨succeeded first List.mem_cons_self (first_author.trans author.symm), ?_⟩
  have own : [first].filter (fun earlier => earlier.author = second.author) = [first] := by
    simp [first_author, author]
  rw [own, author, plan, Tree.calls_openingPlan] at plan_calls
  exact (List.cons.inj (List.cons.inj plan_calls).2).1.symm

end Job.Valid

end BenchTree

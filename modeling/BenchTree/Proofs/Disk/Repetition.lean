import BenchTree.Proofs.Disk.Completion
import BenchTree.Proofs.Parallel.Termination

/-!
# Runs that are repeated

When a run has completed, everything that it would do is done. The root and the directories of the
modules are there, and every artifact has the text that would be written. So each call of the plan
succeeds and leaves the disk as it is, and with them the whole run, in whatever order the workers
take their turns. Other runs may well change a disk, but from one situation to any later one no
entry is lost and none becomes an entry of the other kind, whether or not calls are refused.
-/

namespace BenchTree

namespace Disk

variable {disk base next : Disk} {place other : Location} {entry : Entry} {root path : Path}
  {name : String} {shape : Shape} {backends : List Backend} {node : Node}

/-- Whatever a disk lists for a place is the given entry. -/
def Rests (disk : Disk) (place : Location) (entry : Entry) : Prop :=
  ∀ old, (place, old) ∈ disk.entries ↔ old = entry

/-- Of a place to which something was put nothing else is listed. -/
theorem mem_entries_put {old : Entry} :
    (other, old) ∈ (disk.put place entry).entries ↔
      if other = place then old = entry else (other, old) ∈ disk.entries := by
  rw [Disk.put, List.mem_append, List.mem_map]
  by_cases here : other = place
  · subst here
    rw [if_pos rfl]
    constructor
    · rintro (⟨⟨spot, listed⟩, _, same⟩ | added)
      · obtain ⟨rfl, rfl⟩ := Prod.mk.inj same
        rw [if_pos rfl]
      · split at added
        · cases added
        · exact (Prod.mk.inj (List.mem_singleton.mp added)).2
    · rintro rfl
      cases found : disk.entries.lookup other with
      | none => exact .inr (by simp)
      | some listed =>
          left
          rcases List.lookup_eq_some_iff.mp found with ⟨front, rest, entries_eq, _⟩
          exact ⟨(other, listed), by simp [entries_eq], by simp⟩
  · rw [if_neg here]
    constructor
    · rintro (⟨⟨spot, listed⟩, listing_mem, same⟩ | added)
      · obtain ⟨rfl, rfl⟩ := Prod.mk.inj same
        rwa [if_neg here]
      · split at added
        · cases added
        · exact absurd (Prod.mk.inj (List.mem_singleton.mp added)).1 here
    · intro listing_mem
      exact .inl ⟨(other, old), listing_mem, by simp [here]⟩

theorem rests_put (disk : Disk) (place : Location) (entry : Entry) :
    (disk.put place entry).Rests place entry := by
  intro old
  rw [mem_entries_put, if_pos rfl]

theorem Rests.put (rests : disk.Rests place entry) (different : place ≠ other) (added : Entry) :
    (disk.put other added).Rests place entry := by
  intro old
  rw [mem_entries_put, if_neg different]
  exact rests old

/-- Putting what is there changes nothing. -/
theorem Rests.put_eq (rests : disk.Rests place entry) : disk.put place entry = disk := by
  have listed : (disk.entries.lookup place).isSome := by
    rw [Option.isSome_iff_ne_none, ne_eq, List.lookup_eq_none_iff]
    push Not
    exact ⟨_, (rests entry).mpr rfl, by simp⟩
  have kept : (disk.put place entry).entries = disk.entries := by
    rw [Disk.put, if_pos listed, List.append_nil]
    apply (List.map_congr_left _).trans (List.map_id disk.entries)
    rintro ⟨spot, old⟩ listing_mem
    by_cases here : spot = place
    · subst here
      simp [(rests old).mp listing_mem]
    · simp [here]
  exact congrArg (fun entries => { disk with entries := entries }) kept

/-- The call about a node puts its entry to its place, or finds a directory there. -/
theorem LeadsTo.cases_of_perform
    (leads : disk.LeadsTo (node.parent root) (place ++ node.above))
    (success : sink.perform (node.call root shape) disk = (.ok (), next)) :
    next = disk.put (place ++ node.names) (node.entry shape) ∨
      next = disk ∧ ∃ module, node = .directory module := by
  have ordinary := node.isOrdinary_ownName
  have spelled : place ++ node.above ++ [node.ownName] = place ++ node.names :=
    List.append_assoc ..
  rw [← spelled]
  cases node with
  | directory module =>
      rw [Node.call_directory] at success
      rcases (leads.createDirectory_join_iff ordinary).mp success with
        ⟨_, ⟨_, made⟩ | ⟨_, kept⟩⟩
      · exact .inl made
      · exact .inr ⟨kept, module, rfl⟩
  | file artifact =>
      rw [Node.call_file] at success
      exact .inl ((leads.writeFile_join_iff ordinary).mp (eq_ok_of_update success)).2.2

/-- The system takes a base when it takes a path below it. -/
theorem CanName.checkPath_base (can : CanName path name) (notEmpty : path.text ≠ "") :
    checkPath path = .ok () := by
  have checked := can.checked
  have longer : ∃ rest, (path.join name).text = path.text ++ rest := by
    unfold Path.join
    split
    · exact absurd ‹_› notEmpty
    · split
      · exact ⟨_, rfl⟩
      · exact ⟨_, String.append_assoc ..⟩
  rcases longer with ⟨rest, text_eq⟩
  rw [checkPath, text_eq] at checked
  split at checked
  · cases checked
  · rename_i noNul
    split at checked
    · cases checked
    · split at checked
      · cases checked
      · rename_i short
        rw [checkPath, if_neg, if_neg notEmpty, if_neg]
        · rw [String.utf8ByteSize_append] at short
          omega
        · intro nul
          apply noNul
          simp only [List.contains_iff_mem, String.toList_append, List.mem_append] at nul ⊢
          exact .inl nul

theorem LeadsTo.isDirectoryAt (leads : disk.LeadsTo path place)
    (checked : checkPath path = .ok ()) : disk.isDirectoryAt path = true := by
  have here := isDirectory_iff.mpr leads.directory
  have located : disk.locate path = .ok place := by
    rw [locate, checked]
    simp only [bind, Except.bind, leads.walked, here, Bool.not_true, Bool.and_false,
      Bool.false_eq_true, if_false]
  rw [Disk.isDirectoryAt, located]
  exact here

/-- What leads to a directory leaves no room for a new one. -/
theorem LeadsTo.makeDirectory_eq (leads : disk.LeadsTo path place)
    (checked : checkPath path = .ok ()) :
    disk.makeDirectory path = .error .alreadyExists := by
  have walked := leads.walked
  cases last : (Disk.names path).getLast? with
  | none =>
      rw [makeDirectory, locateTarget, checked]
      simp only [bind, Except.bind, last]
  | some name =>
      obtain ⟨front, names_eq⟩ := List.getLast?_eq_some_iff.mp last
      rw [names_eq, walk_append] at walked
      rcases exists_of_bind_eq_ok walked with ⟨middle, front_walked, last_walked⟩
      rw [walk] at last_walked
      split at last_walked
      · cases last_walked
      · rename_i here
        rw [Bool.not_eq_true', Bool.not_eq_false] at here
        have target : disk.locateTarget path =
            if name = "." ∨ name = ".." then .ok .dots else .ok (.entry middle name) := by
          rw [locateTarget, checked, last, names_eq, List.dropLast_concat, front_walked]
          simp only [bind, Except.bind, here, Bool.not_true, Bool.false_eq_true, if_false]
        rw [makeDirectory, target]
        split at last_walked
        · rename_i dot
          rw [if_pos (.inl dot)]
          rfl
        · rename_i notDot
          split at last_walked
          · rename_i dots
            rw [if_pos (.inr dots)]
            rfl
          · rename_i notDots
            rw [if_neg (not_or.mpr ⟨notDot, notDots⟩)]
            split at last_walked
            · cases last_walked
            · rename_i short
              split at last_walked
              · rename_i found
                simp only [bind, Except.bind, if_neg short, found, Option.isSome_some, if_true]
              · cases last_walked

/-- A directory that is there is not made, and may be asked for. -/
theorem LeadsTo.createDirectory_eq (leads : disk.LeadsTo path place)
    (checked : path.text ≠ "" → checkPath path = .ok ()) :
    disk.createDirectory path = (.ok (), disk) := by
  by_cases noAncestors : path.ancestors = []
  · rw [createDirectory, noAncestors, makeFirst_nil]
  · have notEmpty : path.text ≠ "" := by
      rintro empty
      obtain ⟨text⟩ := path
      subst empty
      exact noAncestors rfl
    have above : ∃ others, path.ancestors = path :: others := by
      rw [Path.ancestors] at noAncestors ⊢
      split at noAncestors
      · exact absurd rfl noAncestors
      · rename_i several
        rw [if_neg several]
        exact ⟨_, rfl⟩
    rcases above with ⟨others, ancestors_eq⟩
    rw [createDirectory, ancestors_eq, makeFirst_cons, leads.makeDirectory_eq (checked notEmpty)]
    change (FileSystem.acceptExisting .alreadyExists (disk.isDirectoryAt path), disk) =
      (.ok (), disk)
    rw [FileSystem.acceptExisting, if_pos ⟨rfl, leads.isDirectoryAt (checked notEmpty)⟩]

/-- A disk on which everything is done: the root can be asked for and leads to a directory, and all
nodes of a tree are there as they would be made. -/
structure Finished (disk : Disk) (place : Location) (root : Path) (shape : Shape)
    (backends : List Backend) : Prop where
  checked : root.text ≠ "" → checkPath root = .ok ()
  leads : disk.LeadsTo root place
  can : ∀ node : Node, node.Belongs shape backends → CanName (node.parent root) node.ownName
  directory : ∀ module < shape.modules,
    disk.find? (place ++ [Source.moduleDirectory module]) = some .directory
  rests : ∀ artifact : Artifact, artifact.Belongs shape backends →
    disk.Rests (place ++ artifact.names) (.file (artifact.text shape).toUTF8)

namespace Finished

variable (finished : disk.Finished place root shape backends)

include finished

theorem leadsTo (belongs : node.Belongs shape backends) :
    disk.LeadsTo (node.parent root) (place ++ node.above) := by
  rcases node.parent_cases root with
    ⟨parent_eq, above_eq⟩ | ⟨module, artifact, rfl, author_eq, parent_eq, above_eq⟩
  · rw [parent_eq, above_eq, List.append_nil]
    exact finished.leads
  · have module_lt : module < shape.modules := Artifact.Belongs.author_lt belongs author_eq
    rw [parent_eq, above_eq]
    exact finished.leads.join (Source.isOrdinary_moduleDirectory module)
      (finished.can (.directory module) module_lt).short (finished.directory module module_lt)

theorem find?_artifact {artifact : Artifact} (belongs : artifact.Belongs shape backends) :
    disk.find? (place ++ artifact.names) = some (.file (artifact.text shape).toUTF8) := by
  have rests := finished.rests artifact belongs
  have notRoot : place ++ artifact.names ≠ [] := by cases artifact <;> simp [Artifact.names]
  rw [← rests.put_eq, find?_put, if_neg notRoot, if_pos rfl]

/-- No call of the plan is refused, and none changes anything. -/
theorem perform_eq {call : Call} (call_mem : call ∈ (Tree.plan root shape backends).calls) :
    sink.perform call disk = (.ok (), disk) := by
  rcases Node.mem_calls_plan.mp call_mem with rfl | ⟨node, belongs, rfl⟩
  · exact finished.leads.createDirectory_eq finished.checked
  · have leads := finished.leadsTo belongs
    have ordinary := node.isOrdinary_ownName
    have can := finished.can node belongs
    have spelled : place ++ node.above ++ [node.ownName] = place ++ node.names :=
      List.append_assoc ..
    cases node with
    | directory module =>
        have present := finished.directory module belongs
        rw [← Node.names_directory, ← spelled] at present
        exact (leads.createDirectory_join_iff ordinary).mpr ⟨can, .inr ⟨present, rfl⟩⟩
    | file artifact =>
        have present := finished.find?_artifact belongs
        have kept := (finished.rests artifact belongs).put_eq
        rw [← Node.names_file, ← spelled] at present kept
        have written : disk.writeFile (((Node.file artifact).parent root).join
            (Node.file artifact).ownName) (artifact.text shape).toUTF8 = .ok disk := by
          rw [leads.writeFile_join_iff ordinary, present]
          exact ⟨can, by simp, kept.symm⟩
        rw [Node.call_file]
        change disk.update (disk.writeFile _ _) = (.ok (), disk)
        rw [written]
        rfl

end Finished

end Disk

/-- Where no call changes anything or is refused, nothing changes and nothing is refused. -/
theorem Sink.Replays.eq_of_fixed {State : Type} {sink : Sink State} {initial final : State}
    {events : List Event} (replays : sink.Replays initial events final)
    (fixed : ∀ event ∈ events, sink.perform event.call initial = (.ok (), initial)) :
    final = initial ∧ ∀ event ∈ events, event.result = .ok () := by
  induction replays with
  | nil => exact ⟨rfl, by simp⟩
  | snoc _ answer ih =>
      rw [List.forall_mem_append, List.forall_mem_singleton] at fixed
      rcases ih fixed.1 with ⟨rfl, succeeded⟩
      obtain ⟨result_eq, state_eq⟩ := Prod.mk.inj (fixed.2.symm.trans answer)
      rw [List.forall_mem_append, List.forall_mem_singleton]
      exact ⟨state_eq.symm, succeeded, result_eq.symm⟩

section

variable {generator : Generator} {shape : Shape} {backends : List Backend} {root : Path}
  {parallel recording : Bool} {situation : Situation Disk} {first : Event}
  {initial base final : Disk} {place : Location}

open Generator (create)

/-- What was written behind the first call is still listed as it was written. -/
theorem Job.Valid.rests_of_replays
    (valid : Job.Valid ⟨generator, Disk.sink, root, recording⟩ situation)
    (distinct : generator.backends.Nodup) (leads : base.LeadsTo root place)
    {events rest : List Event} (events_eq : situation.events = first :: (events ++ rest))
    {state : Disk} (replays : Disk.sink.Replays base events state)
    (succeeded : ∀ event ∈ events, event.result = .ok ()) (artifact : Artifact)
    (written : artifact.call root generator.shape ∈ events.map Event.call) :
    state.Rests (place ++ artifact.names) (.file (artifact.text generator.shape).toUTF8) := by
  -- What is left of the events grows as the induction takes the last one away.
  induction replays generalizing rest with
  | nil => simp at written
  | snoc earlier answer ih =>
      rw [List.append_assoc, List.singleton_append] at events_eq
      rw [List.forall_mem_append, List.forall_mem_singleton] at succeeded
      have carries := valid.carries_of_replays distinct leads events_eq earlier succeeded.1
      rcases valid.exists_node distinct events_eq with ⟨node, _, call_eq, fresh, made⟩
      rw [succeeded.2, call_eq] at answer
      have put := (carries.leadsTo leads made).cases_of_perform answer
      rw [← Node.names_file]
      by_cases same : node = .file artifact
      · rcases put with rfl | ⟨_, module, other⟩
        · rw [same]
          exact Disk.rests_put _ _ _
        · rw [same] at other
          cases other
      · rw [List.map_append, List.map_singleton, call_eq, List.mem_append,
          List.mem_singleton] at written
        have other : (Node.file artifact).call root generator.shape ≠
            node.call root generator.shape := fun call_same =>
          same (Node.eq_of_call_eq call_same).symm
        have rests := ih events_eq succeeded.1 (written.resolve_right other)
        rw [← Node.names_file] at rests
        rcases put with rfl | ⟨rfl, _⟩
        · apply rests.put
          intro place_eq
          exact same (Node.eq_of_names_eq (List.append_cancel_left place_eq)).symm
        · exact rests

/-- After a completed run everything is done. -/
theorem Generator.MayEnd.exists_finished {manifest : Manifest}
    (mayEnd : (create shape backends parallel).MayEnd Disk.sink root recording initial
      (.ok manifest) final) :
    ∃ place, final.Finished place root shape (Backend.distinct backends) := by
  rcases mayEnd.exists_takes with ⟨base, place, takes, carries⟩
  have shape_valid : shape.validate = .ok () := mayEnd.exists_replays.1
  rcases (mayEnd_ok_iff shape_valid).mp mayEnd with ⟨situation, reaches, ends, _, rfl⟩
  have valid := reaches.valid
  have perm := valid.calls_perm ends.isFinished
  have succeeded := (ends.ok_iff valid).mp rfl
  have replays := reaches.replays
  rcases ends.exists_events reaches with ⟨first, second, rest, events_eq⟩
  have first_call := (valid.first_eq events_eq).2
  have opened : situation.events = first :: ((second :: rest) ++ []) := by simpa using events_eq
  rw [events_eq] at perm succeeded replays
  rw [List.forall_mem_cons] at succeeded
  rcases replays.of_cons with ⟨made, first_answer, later⟩
  rw [first_call, succeeded.1] at first_answer
  obtain rfl : base = made := (Prod.mk.inj (takes.created.symm.trans first_answer)).2
  have admitted : ∀ node : Node, node.Belongs shape (Backend.distinct backends) →
      base.Admits place root shape node := fun node belongs =>
    carries.admitted node (Node.call_mem_plan.mpr belongs)
  refine ⟨place, ?_, carries.grows.leadsTo takes.leads, fun node belongs =>
    (admitted node belongs).can, ?_, ?_⟩
  · exact (admitted (.file .main) trivial).can.checkPath_base
  · intro module module_lt
    exact carries.there (.directory module) (Node.call_mem_plan.mpr module_lt)
  · intro artifact belongs
    apply valid.rests_of_replays (Backend.nodup_distinct backends) takes.leads opened later
      succeeded.2
    have planned : (Node.file artifact).call root shape ∈
        (Tree.plan root shape (Backend.distinct backends)).calls :=
      Node.call_mem_plan.mpr belongs
    have written := perm.mem_iff.mpr planned
    rw [List.map_cons, List.mem_cons, first_call] at written
    exact written.resolve_left Node.call_ne_createDirectory_root

/-- Where everything is done, every run succeeds and changes nothing. -/
theorem Generator.MayEnd.eq_of_finished {result : Except GenerateError Manifest}
    (mayEnd : (create shape backends parallel).MayEnd Disk.sink root recording initial result final)
    (finished : initial.Finished place root shape (Backend.distinct backends))
    (shape_valid : shape.validate = .ok ()) :
    final = initial ∧ ∃ manifest, result = .ok manifest := by
  have create_valid : (create shape backends parallel).shape.validate = .ok () := shape_valid
  simp only [MayEnd, create_valid] at mayEnd
  rcases mayEnd with ⟨situation, ending, reaches, ends, rfl, rfl⟩
  have valid := reaches.valid
  have fixed : ∀ event ∈ situation.events,
      Disk.sink.perform event.call initial = (.ok (), initial) := fun event event_mem =>
    finished.perform_eq (valid.mem_calls_plan event_mem)
  rcases reaches.replays.eq_of_fixed fixed with ⟨state_eq, succeeded⟩
  obtain rfl := (ends.ok_iff valid).mpr succeeded
  exact ⟨state_eq, _, rfl⟩

/-- A run that follows a completed one completes with the same summary, and with the same manifest
when it notes artifacts as that one did. -/
theorem Generator.MayEnd.repeated {noting : Bool} {manifest : Manifest} {again : Disk}
    {result : Except GenerateError Manifest}
    (first : (create shape backends parallel).MayEnd Disk.sink root recording initial
      (.ok manifest) final)
    (second : (create shape backends parallel).MayEnd Disk.sink root noting final result again) :
    again = final ∧ ∃ same, result = .ok same ∧ same.summary = manifest.summary ∧
      (noting = recording → same = manifest) := by
  rcases first.exists_replays with ⟨valid, manifest_eq, _⟩
  rcases first.exists_finished with ⟨place, finished⟩
  rcases second.eq_of_finished finished valid with ⟨state_eq, same, rfl⟩
  have same_eq := second.exists_replays.2.1
  refine ⟨state_eq, same, rfl, ?_, ?_⟩
  · rw [same_eq, manifest_eq, Generator.summary_manifest, Generator.summary_manifest]
  · rintro rfl
    exact same_eq.trans manifest_eq.symm

theorem Task.Step.grows {author : Thread} {task next : Task} {state changed : Disk}
    {made : List Event}
    (step : Task.Step Disk.sink recording author task state made next changed) :
    state.Grows changed := by
  have answered : ∀ {call : Call} {result : Except IoError Unit},
      Disk.sink.perform call state = (result, changed) → state.Grows changed := by
    intro call result answer
    have grows := Disk.grows_perform call state
    rwa [answer] at grows
  cases step with
  | note => exact .refl state
  | call answer => exact answered answer
  | failure answer => exact answered answer
  | finish => exact .refl state

/-- No step of a run loses an entry or makes it one of the other kind. -/
theorem Job.Step.grows {next : Situation Disk}
    (step : Job.Step ⟨generator, Disk.sink, root, recording⟩ situation next) :
    situation.state.Grows next.state := by
  cases step with
  | advance step => exact step.grows
  | begin => exact .refl _
  | skip => exact .refl _
  | join => exact .refl _

theorem Job.grows_of_steps {next : Situation Disk}
    (steps : Relation.ReflTransGen (Job.Step ⟨generator, Disk.sink, root, recording⟩)
      situation next) : situation.state.Grows next.state := by
  induction steps with
  | refl => exact .refl _
  | tail _ step ih => exact ih.trans step.grows

theorem Generator.MayEnd.grows {result : Except GenerateError Manifest}
    (mayEnd : generator.MayEnd Disk.sink root recording initial result final) :
    initial.Grows final := by
  cases validation : generator.shape.validate with
  | error problem =>
      simp only [MayEnd, validation] at mayEnd
      rw [mayEnd.2]
      exact .refl initial
  | ok _ =>
      simp only [MayEnd, validation] at mayEnd
      rcases mayEnd with ⟨situation, ending, reaches, _, _, rfl⟩
      exact Job.grows_of_steps reaches

end

/-- When a run on a disk has completed, every further run of the generator completes as well, with
the same result, and leaves the disk exactly as it is. No run, not even one that fails, loses an
entry on its way or makes it one of the other kind. -/
theorem repeated_run_changes_nothing (shape : Shape) (backends : List Backend) (parallel : Bool)
    (root : Path) (initial : Disk) :
    let generator := Generator.create shape backends parallel
    (∀ recording manifest final,
      generator.MayEnd Disk.sink root recording initial (.ok manifest) final →
      ∀ noting, generator.AlwaysEnds Disk.sink root noting final ∧
        ∀ result again, generator.MayEnd Disk.sink root noting final result again →
          again = final ∧ ∃ same, result = .ok same ∧ same.summary = manifest.summary ∧
            (noting = recording → same = manifest)) ∧
    (∀ manifest final,
      generator.generateWithManifest Disk.sink root initial = (.ok manifest, final) →
      generator.generateWithManifest Disk.sink root final = (.ok manifest, final) ∧
      generator.generate Disk.sink root final = (.ok manifest.summary, final)) ∧
    ∀ recording,
      (∀ result final, generator.MayEnd Disk.sink root recording initial result final →
        initial.Grows final) ∧
      ∀ earlier later,
        let job : Job Disk := ⟨generator, Disk.sink, root, recording⟩
        job.Reaches initial earlier → Relation.ReflTransGen job.Step earlier later →
        earlier.state.Grows later.state := by
  intro generator
  refine ⟨?_, ?_, ?_⟩
  · intro recording manifest final first noting
    exact ⟨generator.alwaysEnds Disk.sink root noting final, fun _ _ second =>
      first.repeated second⟩
  · intro manifest final ran
    have first := generator.mayEnd_run Disk.sink root true initial
    rw [← Generator.generateWithManifest, ran] at first
    rcases first.repeated (generator.mayEnd_run Disk.sink root true final) with
      ⟨noted_state, noted, noted_eq, _, noted_same⟩
    rcases first.repeated (generator.mayEnd_run Disk.sink root false final) with
      ⟨quiet_state, quiet, quiet_eq, quiet_summary, _⟩
    constructor
    · rw [Generator.generateWithManifest, ← noted_same rfl]
      exact Prod.ext noted_eq noted_state
    · rw [← quiet_summary]
      exact Prod.ext (by simp [Generator.generate, quiet_eq, Except.map]) quiet_state
  · intro recording
    exact ⟨fun _ _ mayEnd => mayEnd.grows, fun _ _ _ steps => Job.grows_of_steps steps⟩

theorem repeated_run_changes_nothing_dotted_root :
    let generator := Generator.create ⟨1, 2, 1⟩ [.cmake] true
    let root : Path := ⟨"a/./../a//"⟩
    ∃ manifest final,
      generator.generateWithManifest Disk.sink root (.empty "work") = (.ok manifest, final) ∧
      generator.generateWithManifest Disk.sink root final = (.ok manifest, final) := by
  intro generator root
  have completed :
      (generator.generateWithManifest Disk.sink root (.empty "work")).1.isOk = true := by
    decide +kernel
  rcases ran : generator.generateWithManifest Disk.sink root (.empty "work") with
    ⟨result, final⟩
  rw [ran] at completed
  cases result with
  | error problem => cases completed
  | ok manifest =>
      rcases repeated_run_changes_nothing ⟨1, 2, 1⟩ [.cmake] true root (.empty "work") with
        ⟨_, own, _⟩
      exact ⟨manifest, final, rfl, (own manifest final ran).1⟩

end BenchTree

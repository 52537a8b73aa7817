import BenchTree.Proofs.Disk.Nodes
import BenchTree.Proofs.Parallel.Opening
import BenchTree.Proofs.Run.Manifest

/-!
# Runs on a disk that holds anything

A run opens by making the root. From there on every call is about one node of the tree, no two calls
are about the same node, and none changes anything elsewhere. So whether a call can be carried out
is settled by what the disk held when the root was made. Either every run completes, in whatever
order the workers take their turns and whether or not they may, or none does; and those that
complete leave the same entries behind.
-/

namespace BenchTree

variable {State : Type} {job : Job State} {situation : Situation State} {first : Event}

/-- Behind the first call, each one is about a node that no earlier one was about, and the directory
of a module is made before anything is written into it. -/
theorem Job.Valid.exists_node (valid : job.Valid situation)
    (distinct : job.generator.backends.Nodup) {before after : List Event} {event : Event}
    (events_eq : situation.events = first :: (before ++ event :: after)) :
    ∃ node : Node, node.Belongs job.generator.shape job.generator.backends ∧
      event.call = node.call job.root job.generator.shape ∧
      node.call job.root job.generator.shape ∉ before.map Event.call ∧
      ∀ artifact module, node = .file artifact → artifact.author = .module module →
        .createDirectory (Tree.modulePath job.root module) ∈ before.map Event.call := by
  have first_call := (valid.first_eq events_eq).2
  have event_mem : event ∈ situation.events := by simp [events_eq]
  have apart := valid.pairwise_apart distinct
  rw [events_eq, List.pairwise_cons, List.pairwise_append] at apart
  rcases apart with ⟨first_apart, _, _, before_apart⟩
  rcases Node.mem_calls_plan.mp (valid.mem_calls_plan event_mem) with
    call_eq | ⟨node, belongs, call_eq⟩
  · have unlike := first_apart event (by simp)
    rw [first_call, call_eq] at unlike
    exact absurd rfl unlike
  · refine ⟨node, belongs, call_eq, ?_, ?_⟩
    · intro made
      rcases List.mem_map.mp made with ⟨earlier, earlier_mem, same⟩
      have unlike := before_apart earlier earlier_mem event List.mem_cons_self
      rw [same, call_eq] at unlike
      cases node <;> exact unlike rfl
    · rintro artifact module rfl author_eq
      have written := valid.call_mem_plan event_mem
      rw [call_eq, Node.call, Artifact.call] at written
      rcases exists_artifact_of_mem written with ⟨other, other_author, same⟩
      obtain rfl := Artifact.eq_of_same_path (congrArg Path.components same)
      have opened : situation.events = (first :: before) ++ event :: after := events_eq
      rcases valid.directory_mem_before opened call_eq other_author with ⟨author, made⟩
      rw [Artifact.directory, author_eq] at made
      rcases List.mem_cons.mp made with same | made
      · rw [← same] at first_call
        have unlike : (Node.directory module).call job.root job.generator.shape ≠
            .createDirectory job.root := Node.call_ne_createDirectory_root
        exact absurd first_call unlike
      · exact List.mem_map.mpr ⟨_, made, rfl⟩

namespace Disk

/-- What the calls about some nodes have made of a disk: they could be carried out, the nodes are
there, and all else is as before. -/
structure Carries (disk base : Disk) (place : Location) (root : Path) (shape : Shape)
    (calls : List Call) : Prop where
  workingDirectory : disk.workingDirectory = base.workingDirectory
  admitted : ∀ node : Node, node.call root shape ∈ calls → base.Admits place root shape node
  there : ∀ node : Node, node.call root shape ∈ calls →
    disk.find? (place ++ node.names) = some (node.entry shape)
  elsewhere : ∀ spot, (∀ node : Node, node.call root shape ∈ calls → spot ≠ place ++ node.names) →
    disk.find? spot = base.find? spot

variable {base disk next : Disk} {place : Location} {root : Path} {shape : Shape}
  {calls others : List Call} {node : Node}

theorem carries_nil (base : Disk) (place : Location) (root : Path) (shape : Shape) :
    base.Carries base place root shape [] :=
  ⟨rfl, by simp, by simp, fun _ _ => rfl⟩

namespace Carries

theorem grows (carries : disk.Carries base place root shape calls) : base.Grows disk := by
  refine ⟨carries.workingDirectory, ?_⟩
  intro spot entry found
  by_cases touched : ∃ node : Node, node.call root shape ∈ calls ∧ spot = place ++ node.names
  · rcases touched with ⟨node, made, rfl⟩
    exact ⟨_, carries.there node made, (carries.admitted node made).same entry found⟩
  · push Not at touched
    exact ⟨entry, (carries.elsewhere spot touched).trans found, .rfl⟩

/-- At a node that no call was about, the disk is as before. -/
theorem find?_eq (carries : disk.Carries base place root shape calls)
    (fresh : node.call root shape ∉ calls) :
    disk.find? (place ++ node.names) = base.find? (place ++ node.names) := by
  apply carries.elsewhere
  intro other made same
  rw [Node.eq_of_names_eq (List.append_cancel_left same)] at fresh
  exact fresh made

theorem admits_iff (carries : disk.Carries base place root shape calls)
    (fresh : node.call root shape ∉ calls) :
    disk.Admits place root shape node ↔ base.Admits place root shape node := by
  constructor
  · rintro ⟨can, same⟩
    exact ⟨can, by rwa [carries.find?_eq fresh] at same⟩
  · rintro ⟨can, same⟩
    exact ⟨can, by rwa [carries.find?_eq fresh]⟩

/-- The directory of a node can be reached when it is the root or was made. -/
theorem leadsTo (carries : disk.Carries base place root shape calls)
    (leads : base.LeadsTo root place)
    (made : ∀ artifact module, node = .file artifact → artifact.author = .module module →
      .createDirectory (Tree.modulePath root module) ∈ calls) :
    disk.LeadsTo (node.parent root) (place ++ node.above) := by
  have root_leads := carries.grows.leadsTo leads
  rcases node.parent_cases root with
    ⟨parent_eq, above_eq⟩ | ⟨module, artifact, node_eq, author_eq, parent_eq, above_eq⟩
  · rw [parent_eq, above_eq, List.append_nil]
    exact root_leads
  · have module_made := made artifact module node_eq author_eq
    rw [parent_eq, above_eq]
    exact root_leads.join (Source.isOrdinary_moduleDirectory module)
      (carries.admitted (.directory module) module_made).can.short
      (carries.there (.directory module) module_made)

/-- One more node. -/
theorem snoc (carries : disk.Carries base place root shape calls)
    (leads : disk.LeadsTo (node.parent root) (place ++ node.above))
    (fresh : node.call root shape ∉ calls)
    (success : sink.perform (node.call root shape) disk = (.ok (), next)) :
    next.Carries base place root shape (calls ++ [node.call root shape]) := by
  rcases leads.admits_of_perform success with ⟨admits, gains⟩
  have cases_of_mem : ∀ {other : Node}, other.call root shape ∈ calls ++ [node.call root shape] →
      other.call root shape ∈ calls ∧ other ≠ node ∨ other = node := by
    intro other made
    rcases List.mem_append.mp made with made | made
    · refine .inl ⟨made, ?_⟩
      intro same
      exact fresh (same ▸ made)
    · exact .inr (Node.eq_of_call_eq (List.mem_singleton.mp made))
  refine ⟨gains.workingDirectory.trans carries.workingDirectory, ?_, ?_, ?_⟩
  · intro other made
    rcases cases_of_mem made with ⟨made, _⟩ | rfl
    · exact carries.admitted other made
    · exact (carries.admits_iff fresh).mp admits
  · intro other made
    rcases cases_of_mem made with ⟨made, different⟩ | rfl
    · rw [gains.elsewhere, carries.there other made]
      intro same
      exact different (Node.eq_of_names_eq (List.append_cancel_left same))
    · exact gains.here
  · intro spot untouched
    have unlike := untouched node (by simp)
    rw [gains.elsewhere spot unlike]
    apply carries.elsewhere
    intro other made
    exact untouched other (List.mem_append_left _ made)

theorem of_mem_iff (carries : disk.Carries base place root shape calls)
    (mem_iff : ∀ node : Node, node.call root shape ∈ calls ↔ node.call root shape ∈ others) :
    disk.Carries base place root shape others := by
  rcases carries with ⟨workingDirectory, admitted, there, elsewhere⟩
  simp only [mem_iff] at admitted there elsewhere
  exact ⟨workingDirectory, admitted, there, elsewhere⟩

/-- Which nodes there are settles what a disk shows. -/
theorem alike {other : Disk} (carries : disk.Carries base place root shape calls)
    (second : other.Carries base place root shape calls) : disk.Alike other := by
  refine ⟨carries.workingDirectory.trans second.workingDirectory.symm, ?_⟩
  intro spot
  by_cases touched : ∃ node : Node, node.call root shape ∈ calls ∧ spot = place ++ node.names
  · rcases touched with ⟨node, made, rfl⟩
    rw [carries.there node made, second.there node made]
  · push Not at touched
    rw [carries.elsewhere spot touched, second.elsewhere spot touched]

end Carries

end Disk

section

variable {generator : Generator} {root : Path} {recording : Bool} {situation : Situation Disk}
  {first : Event} {base : Disk} {place : Location}

/-- The calls that were carried out behind the first one have made their nodes. -/
theorem Job.Valid.carries_of_replays
    (valid : Job.Valid ⟨generator, Disk.sink, root, recording⟩ situation)
    (distinct : generator.backends.Nodup) (leads : base.LeadsTo root place)
    {events rest : List Event} (events_eq : situation.events = first :: (events ++ rest))
    {state : Disk} (replays : Disk.sink.Replays base events state)
    (succeeded : ∀ event ∈ events, event.result = .ok ()) :
    state.Carries base place root generator.shape (events.map Event.call) := by
  -- What is left of the events grows as the induction takes the last one away.
  induction replays generalizing rest with
  | nil => exact base.carries_nil place root generator.shape
  | snoc earlier answer ih =>
      rw [List.append_assoc, List.singleton_append] at events_eq
      rw [List.forall_mem_append, List.forall_mem_singleton] at succeeded
      have carries := ih events_eq succeeded.1
      rcases valid.exists_node distinct events_eq with ⟨node, _, call_eq, fresh, made⟩
      rw [succeeded.2, call_eq] at answer
      rw [List.map_append, List.map_singleton, call_eq]
      exact carries.snoc (carries.leadsTo leads made) fresh answer

/-- Where the disk admits all nodes of the tree, every call behind the first one is carried out. -/
theorem Job.Valid.succeeded_of_admits
    (valid : Job.Valid ⟨generator, Disk.sink, root, recording⟩ situation)
    (distinct : generator.backends.Nodup) (leads : base.LeadsTo root place)
    (admits : ∀ node : Node, node.Belongs generator.shape generator.backends →
      base.Admits place root generator.shape node)
    {events rest : List Event} (events_eq : situation.events = first :: (events ++ rest))
    {state : Disk} (replays : Disk.sink.Replays base events state) :
    ∀ event ∈ events, event.result = .ok () := by
  induction replays generalizing rest with
  | nil => simp
  | snoc earlier answer ih =>
      rw [List.append_assoc, List.singleton_append] at events_eq
      have succeeded := ih events_eq
      have carries := valid.carries_of_replays distinct leads events_eq earlier succeeded
      rcases valid.exists_node distinct events_eq with ⟨node, belongs, call_eq, fresh, made⟩
      have carriedOut := (carries.leadsTo leads made).perform_eq_ok
        ((carries.admits_iff fresh).mpr (admits node belongs))
      rw [← call_eq, answer] at carriedOut
      rw [List.forall_mem_append, List.forall_mem_singleton]
      exact ⟨succeeded, carriedOut⟩

end

/-- A disk takes a whole tree: when the root is made it can be reached, and all nodes of the tree
can be made there. -/
structure Disk.Takes (initial : Disk) (root : Path) (shape : Shape) (backends : List Backend)
    (base : Disk) (place : Location) : Prop where
  created : initial.createDirectory root = (.ok (), base)
  leads : base.LeadsTo root place
  admits : ∀ node : Node, node.Belongs shape backends → base.Admits place root shape node

namespace Disk.Takes

variable {initial base other : Disk} {root : Path} {shape : Shape} {backends : List Backend}
  {place spot : Location}

theorem unique (takes : initial.Takes root shape backends base place)
    (second : initial.Takes root shape backends other spot) : base = other ∧ place = spot := by
  have created := takes.created
  rw [second.created] at created
  obtain rfl := (Prod.mk.inj created).2
  exact ⟨rfl, takes.leads.unique second.leads⟩

end Disk.Takes

section

variable {shape : Shape} {backends : List Backend} {parallel recording : Bool} {root : Path}
  {initial final : Disk}

open Generator (create)

theorem Node.call_mem_plan {node : Node} :
    node.call root shape ∈ (Tree.plan root shape backends).calls ↔
      node.Belongs shape backends := by
  rw [mem_calls_plan]
  constructor
  · rintro (same | ⟨other, belongs, same⟩)
    · exact absurd same call_ne_createDirectory_root
    · rwa [eq_of_call_eq same]
  · intro belongs
    exact .inr ⟨node, belongs, rfl⟩

/-- In a completed run the root was made, then the main source was written, and so on. -/
theorem Job.Ends.exists_events {situation : Situation Disk}
    (reaches : Job.Reaches ⟨create shape backends parallel, Disk.sink, root, recording⟩ initial
      situation)
    (ends : Job.Ends ⟨create shape backends parallel, Disk.sink, root, recording⟩ situation
      (.ok ())) :
    ∃ first second rest, situation.events = first :: second :: rest := by
  have lengths := (reaches.valid.calls_perm ends.isFinished).length_eq
  rw [List.length_map, Generator.plan, Tree.length_calls_plan] at lengths
  cases events_eq : situation.events with
  | nil =>
      simp only [events_eq, List.length_nil] at lengths
      omega
  | cons first others =>
      cases others with
      | nil =>
          simp only [events_eq, List.length_cons, List.length_nil] at lengths
          omega
      | cons second rest => exact ⟨first, second, rest, rfl⟩

/-- A completed run was taken by the disk, and made all nodes of the tree. -/
theorem Generator.MayEnd.exists_takes {manifest : Manifest}
    (mayEnd : (create shape backends parallel).MayEnd Disk.sink root recording initial
      (.ok manifest) final) :
    ∃ base place, initial.Takes root shape (Backend.distinct backends) base place ∧
      final.Carries base place root shape
        (Tree.plan root shape (Backend.distinct backends)).calls := by
  have shape_valid : shape.validate = .ok () := mayEnd.exists_replays.1
  rcases (mayEnd_ok_iff shape_valid).mp mayEnd with ⟨situation, reaches, ends, _, rfl⟩
  have valid := reaches.valid
  have perm := valid.calls_perm ends.isFinished
  have succeeded := (ends.ok_iff valid).mp rfl
  have replays := reaches.replays
  rcases ends.exists_events reaches with ⟨first, second, rest, events_eq⟩
  have first_call := (valid.first_eq events_eq).2
  have second_call := (valid.second_eq events_eq).2
  rw [events_eq] at perm succeeded replays
  rw [List.forall_mem_cons] at succeeded
  rcases replays.of_cons with ⟨base, first_answer, later⟩
  rcases later.of_cons with ⟨next, second_answer, _⟩
  rw [first_call, succeeded.1] at first_answer
  rw [second_call, succeeded.2 second List.mem_cons_self] at second_answer
  rcases Disk.exists_leadsTo_of_writeFile Source.isOrdinary_mainName
    (Disk.eq_ok_of_update second_answer) with ⟨place, leads⟩
  have opened : situation.events = first :: ((second :: rest) ++ []) := by simpa using events_eq
  have carries : situation.state.Carries base place root shape
      (Tree.plan root shape (Backend.distinct backends)).calls := by
    refine (valid.carries_of_replays (Backend.nodup_distinct backends) leads opened later
      succeeded.2).of_mem_iff fun node => ?_
    have call_mem := perm.mem_iff (a := node.call root shape)
    rwa [List.map_cons, List.mem_cons, first_call,
      or_iff_right Node.call_ne_createDirectory_root] at call_mem
  refine ⟨base, place, ⟨first_answer, leads, ?_⟩, carries⟩
  intro node belongs
  exact carries.admitted node (Node.call_mem_plan.mpr belongs)

/-- A disk that takes the tree takes it from every run. -/
theorem Generator.MayEnd.exists_eq_ok_of_takes {base : Disk} {place : Location}
    (takes : initial.Takes root shape (Backend.distinct backends) base place)
    (shape_valid : shape.validate = .ok ()) {result : Except GenerateError Manifest}
    (mayEnd : (create shape backends parallel).MayEnd Disk.sink root recording initial result
      final) : ∃ manifest, result = .ok manifest := by
  have create_valid : (create shape backends parallel).shape.validate = .ok () := shape_valid
  simp only [MayEnd, create_valid] at mayEnd
  rcases mayEnd with ⟨situation, ending, reaches, ends, rfl, rfl⟩
  have valid := reaches.valid
  have replays := reaches.replays
  have succeeded : ∀ event ∈ situation.events, event.result = .ok () := by
    cases events_eq : situation.events with
    | nil => simp
    | cons first rest =>
        rw [events_eq] at replays
        rcases replays.of_cons with ⟨base, first_answer, later⟩
        rw [(valid.first_eq events_eq).2] at first_answer
        obtain ⟨first_result, rfl⟩ := Prod.mk.inj (takes.created.symm.trans first_answer)
        have opened : situation.events = first :: (rest ++ []) := by simpa using events_eq
        rw [List.forall_mem_cons]
        exact ⟨first_result.symm, valid.succeeded_of_admits (Backend.nodup_distinct backends)
          takes.leads takes.admits opened later⟩
  obtain rfl := (ends.ok_iff valid).mpr succeeded
  exact ⟨_, rfl⟩

/-- Completed runs from one disk leave the same entries behind. -/
theorem Generator.MayEnd.alike {manifest otherManifest : Manifest} {other : Disk}
    {second noting : Bool}
    (mayEnd : (create shape backends parallel).MayEnd Disk.sink root recording initial
      (.ok manifest) final)
    (otherEnd : (create shape backends second).MayEnd Disk.sink root noting initial
      (.ok otherManifest) other) : final.Alike other := by
  rcases mayEnd.exists_takes with ⟨base, place, takes, carries⟩
  rcases otherEnd.exists_takes with ⟨otherBase, spot, otherTakes, otherCarries⟩
  obtain ⟨rfl, rfl⟩ := takes.unique otherTakes
  exact carries.alike otherCarries

/-- Either every run from a disk completes or none does. -/
theorem Generator.MayEnd.exists_eq_ok_iff {result otherResult : Except GenerateError Manifest}
    {other : Disk} {second noting : Bool}
    (mayEnd : (create shape backends parallel).MayEnd Disk.sink root recording initial result final)
    (otherEnd : (create shape backends second).MayEnd Disk.sink root noting initial otherResult
      other) : (∃ manifest, result = .ok manifest) ↔ ∃ manifest, otherResult = .ok manifest := by
  constructor
  · rintro ⟨manifest, rfl⟩
    rcases mayEnd.exists_takes with ⟨base, place, takes, _⟩
    exact otherEnd.exists_eq_ok_of_takes takes mayEnd.exists_replays.1
  · rintro ⟨manifest, rfl⟩
    rcases otherEnd.exists_takes with ⟨base, place, takes, _⟩
    exact mayEnd.exists_eq_ok_of_takes takes otherEnd.exists_replays.1

end

end BenchTree

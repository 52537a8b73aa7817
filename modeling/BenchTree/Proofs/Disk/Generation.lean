import BenchTree.Proofs.Disk.Mirror
import BenchTree.Proofs.Text.Reading

/-!
# Generating a tree on a disk

Below an empty working directory a tree can be generated. Its artifacts never lie where a directory
of the tree is to be, so no file is in the way when a directory is made and no directory when a
file is written, and the directory of a file is made before the file is written. What remains are
names and paths that are too long for the system.
-/

namespace BenchTree

namespace Disk.ArePlain

theorem append {front rest : List String} (front_plain : ArePlain front)
    (rest_plain : ArePlain rest) : ArePlain (front ++ rest) := by
  constructor
  · exact List.forall_mem_append.mpr ⟨front_plain.ordinary, rest_plain.ordinary⟩
  · exact List.forall_mem_append.mpr ⟨front_plain.noNul, rest_plain.noNul⟩

theorem moduleDirectory (module : Nat) : ArePlain [Source.moduleDirectory module] := by
  constructor
  · simpa using Source.isOrdinary_moduleDirectory module
  · have noNul : '\x00' ∉ Nat.toDigits 10 module := Text.not_mem_numeral rfl
    simp [noNul]

end Disk.ArePlain

namespace Artifact

variable (artifact : Artifact) {names : List String}

theorem arePlain_names : Disk.ArePlain artifact.names := by
  refine ⟨fun _ name_mem => artifact.isOrdinary_of_mem_names name_mem, ?_⟩
  have fileName : ∀ backend : Backend, '\x00' ∉ backend.fileName.toList := by
    rintro (_ | _) <;> decide
  have noNul : ∀ number, '\x00' ∉ Nat.toDigits 10 number := fun _ => Text.not_mem_numeral rfl
  cases artifact <;> simp [names, Source.mainName, noNul, fileName]

theorem path_ofNames (ordinary : ∀ name ∈ names, Path.IsOrdinary name) :
    artifact.path (.ofNames names) = .ofNames (names ++ artifact.names) := by
  have module_ordinary : ∀ module, ∀ name ∈ names ++ [Source.moduleDirectory module],
      Path.IsOrdinary name := fun module => List.forall_mem_append.mpr
    ⟨ordinary, List.forall_mem_singleton.mpr (Source.isOrdinary_moduleDirectory module)⟩
  cases artifact <;>
    simp only [path, Tree.mainPath, Tree.headerPath, Tree.sourcePath, Tree.modulePath,
      Artifact.names, Path.join_ofNames ordinary, Path.join_ofNames (module_ordinary _),
      List.append_assoc, List.cons_append, List.nil_append]

theorem directory_ofNames (ordinary : ∀ name ∈ names, Path.IsOrdinary name) :
    artifact.directory (.ofNames names) = .ofNames (names ++ artifact.names.dropLast) := by
  cases artifact <;>
    simp [directory, author, Tree.modulePath, Artifact.names, Path.join_ofNames ordinary]

/-- No artifact lies where a module has its directory. -/
theorem not_prefix_moduleDirectory (module : Nat) :
    ¬artifact.names <+: [Source.moduleDirectory module] := by
  intro isPrefix
  have same : ∀ name, [name] <+: [Source.moduleDirectory module] →
      name.toList = (Source.moduleDirectory module).toList := by
    intro name isPrefix
    rw [(List.cons_prefix_cons.mp isPrefix).1]
  cases artifact with
  | main => simpa [Source.mainName] using same _ isPrefix
  | rootDescription backend =>
      cases backend <;> simpa [Backend.fileName] using same _ isPrefix
  | header _ _ => simpa [Artifact.names] using isPrefix.length_le
  | source _ _ => simpa [Artifact.names] using isPrefix.length_le
  | moduleDescription _ _ => simpa [Artifact.names] using isPrefix.length_le

end Artifact

section

variable {shape : Shape} {backends : List Backend} {names : List String} {earlier : List Call}
  {disk : Disk}

open Disk (ArePlain)

theorem Tree.exists_names_of_mem_directories (plain : ArePlain names) {modules : Nat}
    {directory : Path} (directory_mem : directory ∈ directories (.ofNames names) modules) :
    ∃ below, ArePlain below ∧ directory = .ofNames (names ++ below) ∧
      ∀ artifact : Artifact, ¬artifact.names <+: below := by
  rcases List.mem_cons.mp directory_mem with rfl | directory_mem
  · refine ⟨[], ⟨by simp, by simp⟩, by rw [List.append_nil], ?_⟩
    intro artifact
    cases artifact <;> simp [Artifact.names]
  · rcases List.mem_map.mp directory_mem with ⟨module, _, rfl⟩
    exact ⟨_, .moduleDirectory module, Path.join_ofNames plain.ordinary _,
      fun artifact => artifact.not_prefix_moduleDirectory module⟩

/-- All paths of a tree are canonical when its root is. -/
theorem Tree.isCanonical_of_mem_calls (plain : ArePlain names) {call : Call}
    (call_mem : call ∈ (plan (.ofNames names) shape backends).calls) :
    call.path.IsCanonical := by
  rcases mem_calls_plan.mp call_mem with ⟨directory, directory_mem, rfl⟩ | ⟨artifact, _, rfl⟩
  · rcases exists_names_of_mem_directories plain directory_mem with ⟨below, below_plain, same, _⟩
    exact ⟨_, plain.append below_plain, same⟩
  · exact ⟨_, plain.append artifact.arePlain_names, artifact.path_ofNames plain.ordinary⟩

variable (inside : ∀ call ∈ earlier, call ∈ (Tree.plan (.ofNames names) shape backends).calls)
  (plain : ArePlain names)

include inside plain

theorem exists_artifact_of_mem_fileList {front : List String}
    (ordinary : ∀ name ∈ front, Path.IsOrdinary name) {text : String}
    (listed : (Path.ofNames front, text) ∈ (Store.empty.after earlier).fileList) :
    ∃ artifact : Artifact, front = names ++ artifact.names := by
  rw [Store.mem_fileList] at listed
  by_contra none
  rw [Store.files_after_of_forall_ne] at listed
  · simp [Store.empty] at listed
  · intro path written written_mem same
    rcases Tree.writeFile_mem_calls_plan.mp (inside _ written_mem) with ⟨artifact, _, rfl, _⟩
    rw [artifact.path_ofNames plain.ordinary] at same
    have below_ordinary := (plain.append artifact.arePlain_names).ordinary
    exact none ⟨artifact, (Disk.ofNames_inj below_ordinary ordinary same).symm⟩

theorem exists_names_of_mem_directoryList {directory : Path}
    (listed : directory ∈ (Store.empty.after earlier).directoryList) :
    ∃ below, directory.components = (names ++ below).map .name ∧
      ∀ artifact : Artifact, ¬artifact.names <+: below := by
  rcases Store.exists_same_directoryList_after.mp ⟨directory, listed, rfl⟩ with
    ⟨other, other_mem, _⟩ | ⟨made, made_mem, same⟩
  · simp [Store.directoryList, Store.empty, Store.dropRepeats] at other_mem
  · have directory_mem := Tree.createDirectory_mem_calls_plan.mp (inside _ made_mem)
    rcases Tree.exists_names_of_mem_directories plain directory_mem with
      ⟨below, below_plain, rfl, apart⟩
    refine ⟨below, ?_, apart⟩
    rw [← same, Path.components_ofNames (plain.append below_plain).ordinary]

namespace Disk.Mirrors

/-- A directory of the tree can be made. -/
theorem perform_createDirectory (mirrors : disk.Mirrors (Store.empty.after earlier))
    {directory : Path} (directory_mem : directory ∈ Tree.directories (.ofNames names) shape.modules)
    (fits : Fits directory) : (sink.perform (.createDirectory directory) disk).1 = .ok () := by
  rcases Tree.exists_names_of_mem_directories plain directory_mem with
    ⟨below, below_plain, rfl, apart⟩
  have noFile : disk.NoFile disk.workingDirectory (names ++ below) := by
    intro front isPrefix content found
    rcases (mirrors.files front content).mp found with ⟨ordinary, text, listed, _⟩
    rcases exists_artifact_of_mem_fileList inside plain ordinary listed with ⟨artifact, rfl⟩
    exact apart artifact ((List.prefix_append_right_inj _).mp isPrefix)
  exact noFile.createDirectory (plain.append below_plain) fits mirrors.rooted

/-- No directory lies where an artifact is to be. -/
theorem find?_artifact_ne (mirrors : disk.Mirrors (Store.empty.after earlier))
    (artifact : Artifact) :
    disk.find? (disk.workingDirectory ++ (names ++ artifact.names)) ≠ some .directory := by
  intro found
  have notEmpty : names ++ artifact.names ≠ [] := by
    cases artifact <;> simp [Artifact.names]
  rcases (mirrors.directories _ notEmpty).mp found with ⟨directory, listed, isPrefix⟩
  rcases exists_names_of_mem_directoryList inside plain listed with ⟨below, components, apart⟩
  rw [components, map_name_prefix, List.prefix_append_right_inj] at isPrefix
  exact apart artifact isPrefix

omit inside in
/-- When the directory of an artifact was made, it is there, and so are the ones above it. -/
theorem hasDirectories_artifact (mirrors : disk.Mirrors (Store.empty.after earlier))
    {artifact : Artifact}
    (made : .createDirectory (artifact.directory (.ofNames names)) ∈ earlier) :
    disk.HasDirectories disk.workingDirectory (names ++ artifact.names.dropLast) := by
  have ordinary : ∀ name ∈ names ++ artifact.names.dropLast, Path.IsOrdinary name := by
    intro name name_mem
    refine (plain.append artifact.arePlain_names).ordinary name ?_
    rw [List.mem_append] at name_mem ⊢
    exact name_mem.imp_right List.mem_of_mem_dropLast
  intro front isPrefix
  by_cases none : front = []
  · rw [none, List.append_nil]
    exact mirrors.rooted
  · rcases Store.exists_same_directoryList_after.mpr (.inr ⟨_, made, rfl⟩) with
      ⟨directory, listed, same⟩
    refine (mirrors.directories front none).mpr ⟨directory, listed, ?_⟩
    rw [same, artifact.directory_ofNames plain.ordinary, Path.components_ofNames ordinary,
      map_name_prefix]
    exact isPrefix

/-- An artifact of the tree can be written when its directory was made. -/
theorem perform_writeFile (mirrors : disk.Mirrors (Store.empty.after earlier))
    {artifact : Artifact} {text : String} (fits : Fits (artifact.path (.ofNames names)))
    (made : .createDirectory (artifact.directory (.ofNames names)) ∈ earlier) :
    (sink.perform (.writeFile (artifact.path (.ofNames names)) text) disk).1 = .ok () := by
  have all_plain := plain.append artifact.arePlain_names
  have notDirectory := mirrors.find?_artifact_ne inside plain artifact
  have directories := mirrors.hasDirectories_artifact plain made
  have split : names ++ artifact.names = (names ++ artifact.names.dropLast)
      ++ [artifact.names.getLast (by cases artifact <;> simp [Artifact.names])] := by
    rw [List.append_assoc, List.dropLast_concat_getLast]
  rw [artifact.path_ofNames plain.ordinary] at fits ⊢
  rw [split] at all_plain fits notDirectory ⊢
  change (disk.update (disk.writeFile _ _)).1 = .ok ()
  rw [directories.writeFile all_plain fits _ notDirectory]
  rfl

end Disk.Mirrors

end

section

variable {generator : Generator} {names : List String} {recording : Bool} {initial : Disk}
  {situation : Situation Disk}

theorem Job.Valid.mem_calls_plan {State : Type} {job : Job State} {situation : Situation State}
    (valid : job.Valid situation) {event : Event} (event_mem : event ∈ situation.events) :
    event.call ∈ (job.generator.plan job.root).calls :=
  valid.calls_subperm.subset (List.mem_map_of_mem event_mem)

variable (plain : Disk.ArePlain names)
  (fits : ∀ call ∈ (generator.plan (.ofNames names)).calls, Disk.Fits call.path)
  (valid : Job.Valid ⟨generator, Disk.sink, .ofNames names, recording⟩ situation)

include plain fits valid

/-- The next call of a run is carried out. -/
theorem Job.Valid.perform_eq_ok {before after : List Event} {event : Event}
    (events_eq : situation.events = before ++ event :: after) {disk : Disk}
    (mirrors : disk.Mirrors (Store.empty.after (before.map Event.call))) :
    (Disk.sink.perform event.call disk).1 = .ok () := by
  have inside : ∀ call ∈ before.map Event.call,
      call ∈ (generator.plan (.ofNames names)).calls := by
    intro call made
    rcases List.mem_map.mp made with ⟨other, other_mem, rfl⟩
    exact valid.mem_calls_plan (by simp [events_eq, other_mem])
  have event_mem : event ∈ situation.events := by simp [events_eq]
  have call_mem := valid.mem_calls_plan event_mem
  have event_fits := fits _ call_mem
  cases call_eq : event.call with
  | createDirectory directory =>
      rw [call_eq] at call_mem event_fits
      exact mirrors.perform_createDirectory inside plain
        (Tree.createDirectory_mem_calls_plan.mp call_mem) event_fits
  | writeFile path text =>
      have written := valid.call_mem_plan event_mem
      rw [call_eq] at written event_fits
      rcases Job.exists_artifact_of_mem written with ⟨artifact, author_eq, rfl⟩
      rcases valid.directory_mem_before events_eq call_eq author_eq with ⟨author, made⟩
      exact mirrors.perform_writeFile inside plain event_fits (List.mem_map_of_mem made)

/-- All calls made so far were carried out, and the disk is like a store that carried them out. -/
theorem Job.Valid.mirrors_of_replays (vacant : initial.IsVacant) {events rest : List Event}
    {state : Disk} (events_eq : situation.events = events ++ rest)
    (replays : Disk.sink.Replays initial events state) :
    (∀ event ∈ events, event.result = .ok ()) ∧
      state.Mirrors (Store.empty.after (events.map Event.call)) := by
  -- What is left of the events grows as the induction takes the last one away.
  induction replays generalizing rest with
  | nil => exact ⟨by simp, vacant.mirrors⟩
  | snoc earlier answer ih =>
      rename_i before event state next
      rw [List.append_assoc, List.singleton_append] at events_eq
      rcases ih events_eq with ⟨succeeded, mirrors⟩
      have carriedOut := valid.perform_eq_ok plain fits events_eq mirrors
      rw [answer] at carriedOut
      have event_ok : event.result = .ok () := carriedOut
      rw [event_ok] at answer
      have event_mem : event ∈ situation.events := by simp [events_eq]
      have canonical := Tree.isCanonical_of_mem_calls plain (valid.mem_calls_plan event_mem)
      rw [List.map_append, Store.after_append, List.forall_mem_append, List.forall_mem_singleton]
      exact ⟨⟨succeeded, event_ok⟩, (mirrors.perform canonical answer).1⟩

end

/-- Below an empty working directory a run is completed when no path is too long. -/
theorem Generator.MayEnd.exists_eq_ok_of_fits {generator : Generator} {names : List String}
    (plain : Disk.ArePlain names)
    (fits : ∀ call ∈ (generator.plan (.ofNames names)).calls, Disk.Fits call.path)
    (valid : generator.shape.validate = .ok ()) {recording : Bool} {initial final : Disk}
    (vacant : initial.IsVacant) {result : Except GenerateError Manifest}
    (mayEnd : generator.MayEnd Disk.sink (.ofNames names) recording initial result final) :
    ∃ manifest, result = .ok manifest := by
  simp only [MayEnd, valid] at mayEnd
  rcases mayEnd with ⟨situation, ending, reaches, ends, rfl, _⟩
  have succeeded := (reaches.valid.mirrors_of_replays plain fits vacant (List.append_nil _).symm
    reaches.replays).1
  obtain rfl := (ends.ok_iff reaches.valid).mpr succeeded
  exact ⟨_, rfl⟩

end BenchTree

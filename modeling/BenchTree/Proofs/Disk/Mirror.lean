import BenchTree.Proofs.Disk.Making
import BenchTree.Proofs.Run.Confluence
import BenchTree.Proofs.Run.Discipline

/-!
# Disks that mirror stores

A disk mirrors a store when the same files lie below its working directory, and when its
directories there are those of the store and the ones above them. A call that a disk carries out
keeps this up, and so does a run of calls. Nothing is refused by a store, so no more is known the
other way round.
-/

namespace BenchTree

namespace Store

theorem exists_directoryList_iff {store : Store} (holds : List Path.Component → Prop) :
    (∃ directory ∈ store.directoryList, holds directory.components) ↔
      ∃ directory ∈ store.directories, holds directory.components := by
  constructor
  · rintro ⟨directory, shown, held⟩
    rcases exists_same_directoryList.mp ⟨directory, shown, rfl⟩ with ⟨made, made_mem, same⟩
    exact ⟨made, made_mem, by rwa [same]⟩
  · rintro ⟨directory, made_mem, held⟩
    rcases exists_same_directoryList.mpr ⟨directory, made_mem, rfl⟩ with ⟨shown, shown_mem, same⟩
    exact ⟨shown, shown_mem, by rwa [same]⟩

theorem exists_directoryList_createDirectory {store : Store} {made : Path}
    (holds : List Path.Component → Prop) :
    (∃ directory ∈ (store.createDirectory made).directoryList, holds directory.components) ↔
      (∃ directory ∈ store.directoryList, holds directory.components) ∨ holds made.components := by
  rw [exists_directoryList_iff, exists_directoryList_iff]
  simp [createDirectory, or_and_right, exists_or]

theorem mem_fileList_writeFile {store : Store} {written path : Path} {text other : String} :
    (path, other) ∈ (store.writeFile written text).fileList ↔
      if written.Same path then path = store.spelling written ∧ other = text
      else (path, other) ∈ store.fileList := by
  have inserted : (store.writeFile written text).files[path.components]? =
      if written.Same path then some (store.spelling written, text)
      else store.files[path.components]? := by
    by_cases same : written.components = path.components <;>
      simp [writeFile, Std.TreeMap.getElem?_insert, Path.Same, same]
  rw [mem_fileList, mem_fileList]
  simp only [inserted]
  split
  · simp [eq_comm]
  · rfl

end Store

/-- A path is spelled by plain names with single slashes between them. -/
def Path.IsCanonical (path : Path) : Prop := ∃ names, Disk.ArePlain names ∧ path = .ofNames names

namespace Disk

/-- The working directory is there, and nothing lies below it. -/
structure IsVacant (disk : Disk) : Prop where
  rooted : disk.find? disk.workingDirectory = some .directory
  distinct : disk.Distinct
  vacant : ∀ names, names ≠ [] → disk.find? (disk.workingDirectory ++ names) = none

theorem isVacant_empty (workingDirectory : String) : (empty workingDirectory).IsVacant := by
  constructor
  case rooted => simp [empty, find?]
  case distinct => exact List.nodup_singleton _
  case vacant =>
    intro names notEmpty
    simp [empty, find?, List.lookup_cons, List.isEmpty_eq_false_iff.mpr notEmpty]

/-- A disk holds below its working directory what a store holds. -/
structure Mirrors (disk : Disk) (store : Store) : Prop where
  rooted : disk.find? disk.workingDirectory = some .directory
  distinct : disk.Distinct
  files : ∀ names content,
    disk.find? (disk.workingDirectory ++ names) = some (.file content) ↔
      (∀ name ∈ names, Path.IsOrdinary name) ∧
        ∃ text, (Path.ofNames names, text) ∈ store.fileList ∧ text.toUTF8 = content
  directories : ∀ names, names ≠ [] →
    (disk.find? (disk.workingDirectory ++ names) = some .directory ↔
      ∃ directory ∈ store.directoryList, names.map .name <+: directory.components)
  spelled : ∀ file ∈ store.fileList,
    ∃ names, (∀ name ∈ names, Path.IsOrdinary name) ∧ file.1 = .ofNames names

variable {disk next : Disk} {store : Store} {names : List String}

theorem ofNames_inj {left right : List String} (left_ordinary : ∀ name ∈ left, Path.IsOrdinary name)
    (right_ordinary : ∀ name ∈ right, Path.IsOrdinary name)
    (same : (Path.ofNames left).Same (.ofNames right)) : left = right := by
  rw [Path.Same, Path.components_ofNames left_ordinary,
    Path.components_ofNames right_ordinary] at same
  exact List.map_injective_iff.mpr (fun _ _ => Path.Component.name.inj) same

theorem map_name_prefix {left right : List String} :
    left.map Path.Component.name <+: right.map .name ↔ left <+: right :=
  List.prefix_map_iff_of_injective fun _ _ => Path.Component.name.inj

theorem IsVacant.mirrors (vacant : disk.IsVacant) : disk.Mirrors .empty := by
  have noFile : Store.empty.fileList = [] := rfl
  have noDirectory : Store.empty.directoryList = [] := by
    simp [Store.directoryList, Store.empty, Store.dropRepeats]
  have absent : ∀ names content,
      disk.find? (disk.workingDirectory ++ names) ≠ some (.file content) := by
    intro names content
    cases names with
    | nil => simp [vacant.rooted]
    | cons first others => simp [vacant.vacant _ (List.cons_ne_nil first others)]
  refine ⟨vacant.rooted, vacant.distinct, ?_, ?_, ?_⟩
  · simp [noFile, absent]
  · intro names notEmpty
    simp [noDirectory, vacant.vacant names notEmpty]
  · simp [noFile]

theorem find?_put_below (rooted : disk.find? disk.workingDirectory = some .directory)
    (notEmpty : names ≠ []) (entry : Entry) (below : List String) :
    (disk.put (disk.workingDirectory ++ names) entry).find? (disk.workingDirectory ++ below) =
      if below = names then some entry else disk.find? (disk.workingDirectory ++ below) := by
  simp only [find?_put, List.append_cancel_left_eq]
  split
  · rename_i root
    rw [List.append_eq_nil_iff] at root
    rw [root.2, if_neg notEmpty.symm, List.append_nil, rooted]
  · rfl

namespace Mirrors

/-- Which of two arrangements of calls filled the store makes no difference. -/
theorem agrees (mirrors : disk.Mirrors store) {other : Store} (agrees : store.Agrees other) :
    disk.Mirrors other := by
  rcases mirrors with ⟨rooted, distinct, files, directories, spelled⟩
  simp only [agrees.files, agrees.directories] at files directories spelled
  exact ⟨rooted, distinct, files, directories, spelled⟩

/-- A file is spelled in one way only. -/
theorem spelling_eq (mirrors : disk.Mirrors store)
    (ordinary : ∀ name ∈ names, Path.IsOrdinary name) :
    store.spelling (.ofNames names) = .ofNames names := by
  rw [Store.spelling]
  split
  · rename_i spelling text found
    have same := store.spelled _ _ found
    have listed : (spelling, text) ∈ store.fileList := Store.mem_fileList.mpr (by rwa [same])
    rcases mirrors.spelled _ listed with ⟨other, other_ordinary, rfl⟩
    rw [ofNames_inj other_ordinary ordinary same]
  · rfl

theorem mem_fileList_writeFile (mirrors : disk.Mirrors store)
    (ordinary : ∀ name ∈ names, Path.IsOrdinary name) (path : Path) (text other : String) :
    (path, other) ∈ (store.writeFile (.ofNames names) text).fileList ↔
      if (Path.ofNames names).Same path then path = .ofNames names ∧ other = text
      else (path, other) ∈ store.fileList := by
  rw [Store.mem_fileList_writeFile, mirrors.spelling_eq ordinary]

theorem createDirectory (mirrors : disk.Mirrors store)
    (ordinary : ∀ name ∈ names, Path.IsOrdinary name)
    (success : disk.createDirectory (.ofNames names) = (.ok (), next)) :
    next.Mirrors (store.createDirectory (.ofNames names)) := by
  have made := made_of_makeFirst ordinary mirrors.rooted success
  have components := Path.components_ofNames ordinary
  have fileList : (store.createDirectory (.ofNames names)).fileList = store.fileList := rfl
  -- The prefixes of the path are directories now; what lies elsewhere is as before.
  have elsewhere : ∀ below, ¬(below <+: names ∧ below ≠ []) →
      next.find? (disk.workingDirectory ++ below) =
        disk.find? (disk.workingDirectory ++ below) := by
    intro below outside
    apply made.elsewhere
    rintro front isPrefix notEmpty same
    rw [List.append_cancel_left same] at outside
    exact outside ⟨isPrefix, notEmpty⟩
  constructor
  case rooted =>
    rw [made.workingDirectory]
    simpa using made.directories [] List.nil_prefix
  case distinct => exact made.distinct mirrors.distinct
  case files =>
    intro below content
    rw [made.workingDirectory, fileList, ← mirrors.files]
    by_cases inside : below <+: names ∧ below ≠ []
    · have here := made.directories below inside.1
      have before := made.noFile below inside.1 content
      simp [here, before]
    · rw [elsewhere below inside]
  case directories =>
    intro below notEmpty
    rw [made.workingDirectory, Store.exists_directoryList_createDirectory
      fun place => below.map .name <+: place, components, map_name_prefix,
      ← mirrors.directories below notEmpty]
    by_cases inside : below <+: names
    · simp [made.directories below inside, inside]
    · rw [elsewhere below fun both => inside both.1]
      simp [inside]
  case spelled => exact mirrors.spelled

theorem writeFile (mirrors : disk.Mirrors store)
    (ordinary : ∀ name ∈ names, Path.IsOrdinary name) {text : String}
    (success : disk.writeFile (.ofNames names) text.toUTF8 = .ok next) :
    next.Mirrors (store.writeFile (.ofNames names) text) := by
  have written := mirrors.mem_fileList_writeFile ordinary
  rcases eq_put_of_writeFile ordinary success with ⟨notEmpty, _, notDirectory, rfl⟩
  have workingDirectory : (disk.put (disk.workingDirectory ++ names)
      (.file text.toUTF8)).workingDirectory = disk.workingDirectory := rfl
  have found := find?_put_below mirrors.rooted notEmpty (.file text.toUTF8)
  constructor
  case rooted =>
    have here := found []
    rw [if_neg notEmpty.symm, List.append_nil, mirrors.rooted] at here
    exact here
  case distinct => exact mirrors.distinct.put ..
  case files =>
    intro below content
    rw [workingDirectory, found]
    by_cases target : below = names
    · subst target
      have below_ordinary : ∀ name ∈ below, Path.IsOrdinary name := ordinary
      simpa [written, Path.Same] using fun _ => below_ordinary
    · have other : (∀ name ∈ below, Path.IsOrdinary name) →
          ¬(Path.ofNames names).Same (.ofNames below) := fun below_ordinary same =>
        target (ofNames_inj ordinary below_ordinary same).symm
      rw [if_neg target, mirrors.files]
      apply and_congr_right
      intro below_ordinary
      simp only [written, other below_ordinary, if_false]
  case directories =>
    intro below below_ne
    rw [workingDirectory, found]
    by_cases target : below = names
    · subst target
      have absent : ¬∃ directory ∈ (store.writeFile (.ofNames below) text).directoryList,
          below.map .name <+: directory.components :=
        mt (mirrors.directories below below_ne).mpr notDirectory
      simpa using absent
    · rw [if_neg target]
      exact mirrors.directories below below_ne
  case spelled =>
    rintro ⟨path, other⟩ file_mem
    rw [written] at file_mem
    split at file_mem
    · exact ⟨names, ordinary, file_mem.1⟩
    · exact mirrors.spelled _ file_mem

/-- A call that a disk carries out keeps it like a store, and its path was not too long. -/
theorem perform (mirrors : disk.Mirrors store) {call : Call} (canonical : call.path.IsCanonical)
    (answer : sink.perform call disk = (.ok (), next)) :
    next.Mirrors (store.carryOut call) ∧ Fits call.path := by
  rcases canonical with ⟨names, plain, spelled⟩
  cases call with
  | createDirectory directory =>
      obtain rfl : directory = .ofNames names := spelled
      exact ⟨mirrors.createDirectory plain.ordinary answer,
        (made_of_makeFirst plain.ordinary mirrors.rooted answer).fits⟩
  | writeFile path text =>
      obtain rfl : path = .ofNames names := spelled
      have written : disk.writeFile (.ofNames names) text.toUTF8 = .ok next :=
        eq_ok_of_update answer
      exact ⟨mirrors.writeFile plain.ordinary written,
        (eq_put_of_writeFile plain.ordinary written).2.1⟩

/-- So do the calls of a run as long as all of them are carried out. -/
theorem replays (mirrors : disk.Mirrors store) {events : List Event}
    (replays : sink.Replays disk events next)
    (canonical : ∀ event ∈ events, event.call.path.IsCanonical)
    (succeeded : ∀ event ∈ events, event.result = .ok ()) :
    next.Mirrors (store.after (events.map Event.call)) ∧
      ∀ event ∈ events, Fits event.call.path := by
  induction replays with
  | nil => exact ⟨mirrors, by simp⟩
  | snoc earlier answer ih =>
      rename_i events event state next
      rw [List.forall_mem_append, List.forall_mem_singleton] at canonical succeeded
      rcases ih canonical.1 succeeded.1 with ⟨before, fits⟩
      rw [succeeded.2] at answer
      rcases before.perform canonical.2 answer with ⟨after, event_fits⟩
      rw [List.map_append, Store.after_append, List.forall_mem_append, List.forall_mem_singleton]
      exact ⟨after, fits, event_fits⟩

end Mirrors

theorem mem_entries_iff (distinct : disk.Distinct) {location : Location} {entry : Entry} :
    (location, entry) ∈ disk.entries ↔ disk.entries.lookup location = some entry := by
  rw [List.lookup_eq_some_iff]
  constructor
  · intro entry_mem
    rcases List.append_of_mem entry_mem with ⟨before, after, entries_eq⟩
    refine ⟨before, after, entries_eq, ?_⟩
    intro other other_mem
    rw [Distinct, entries_eq, List.map_append, List.nodup_append] at distinct
    have different := distinct.2.2 other.1 (List.mem_map_of_mem other_mem) location (by simp)
    simpa using different.symm
  · rintro ⟨before, after, entries_eq, _⟩
    simp [entries_eq]

theorem mem_tree (distinct : disk.Distinct) {text : String} {entry : Entry} :
    (text, entry) ∈ disk.tree ↔ ∃ names, names ≠ [] ∧ text = "/".intercalate names ∧
      disk.find? (disk.workingDirectory ++ names) = some entry := by
  rw [tree, List.mem_mergeSort, List.mem_filterMap]
  constructor
  · rintro ⟨⟨location, other⟩, other_mem, kept⟩
    simp only [Option.ite_none_right_eq_some, List.isPrefixOf_iff_prefix] at kept
    rcases kept with ⟨⟨different, names, rfl⟩, same⟩
    rw [List.drop_left] at same
    cases same
    have notEmpty : names ≠ [] := by
      rintro rfl
      simp at different
    refine ⟨names, notEmpty, rfl, ?_⟩
    rw [find?, if_neg (by simp [notEmpty])]
    exact (mem_entries_iff distinct).mp other_mem
  · rintro ⟨names, notEmpty, rfl, found⟩
    rw [find?, if_neg (by simp [notEmpty])] at found
    refine ⟨_, (mem_entries_iff distinct).mpr found, ?_⟩
    simp [notEmpty]

/-- What is seen below the working directory of a disk is what is seen in a store. Its directories
are those of the store and the ones above them. -/
structure Shows (disk : Disk) (store : Store) : Prop where
  files : ∀ text content, (text, .file content) ∈ disk.tree ↔
    ∃ written, (⟨text⟩, written) ∈ store.fileList ∧ written.toUTF8 = content
  directories : ∀ text, (text, .directory) ∈ disk.tree ↔
    ∃ names, names ≠ [] ∧ text = "/".intercalate names ∧
      ∃ directory ∈ store.directoryList, names.map .name <+: directory.components

theorem Mirrors.shows (mirrors : disk.Mirrors store) : disk.Shows store := by
  constructor
  case files =>
    intro text content
    rw [mem_tree mirrors.distinct]
    constructor
    · rintro ⟨names, _, rfl, found⟩
      exact ((mirrors.files names content).mp found).2
    · rintro ⟨written, written_mem, rfl⟩
      rcases mirrors.spelled _ written_mem with ⟨names, ordinary, spelled⟩
      obtain rfl : text = "/".intercalate names := congrArg Path.text spelled
      have found := (mirrors.files names _).mpr ⟨ordinary, written, written_mem, rfl⟩
      refine ⟨names, ?_, rfl, found⟩
      rintro rfl
      rw [List.append_nil, mirrors.rooted] at found
      cases found
  case directories =>
    intro text
    rw [mem_tree mirrors.distinct]
    apply exists_congr
    intro names
    apply and_congr_right
    intro notEmpty
    rw [mirrors.directories names notEmpty]

end Disk

end BenchTree

import BenchTree.Proofs.Path.Spelling
import BenchTree.Proofs.Store.Calls

/-!
# What a store remembers of its history

A store that began empty is determined by the calls it was given. At every place it holds the text
that was written there last, and lists it under the spelling that was used there first; a directory
is shown under the spelling in which it was made first. So a store is a map from places to texts in
which the last write wins, and its two lists are strictly increasing in the order of places.
-/

namespace BenchTree

/-- The spelling and the text of a call that writes to a place. -/
def Call.writing? (place : Path) : Call → Option (Path × String)
  | .createDirectory _ => none
  | .writeFile path text => if path.Same place then some (path, text) else none

/-- The spelling of a call that makes the directory at a place. -/
def Call.making? (place : Path) : Call → Option Path
  | .createDirectory directory => if directory.Same place then some directory else none
  | .writeFile _ _ => none

/-- The spellings and texts in which a history writes to a place, in order. -/
def writings (history : List Call) (place : Path) : List (Path × String) :=
  history.filterMap (Call.writing? place)

/-- The spellings in which a history makes the directory at a place, in order. -/
def makings (history : List Call) (place : Path) : List Path :=
  history.filterMap (Call.making? place)

namespace Store

/-- A store shows what is left of a history of calls. -/
structure Recalls (store : Store) (history : List Call) : Prop where
  /-- A place holds what was written there last, in whatever spelling. -/
  text : ∀ place, store.get? place = (writings history place).getLast?.map Prod.snd
  /-- A file is listed in the spelling of the first writing, with the text of the last one. -/
  files : ∀ path text, (path, text) ∈ store.fileList ↔
    (writings history path).head?.map Prod.fst = some path ∧
      (writings history path).getLast?.map Prod.snd = some text
  files_increasing : store.fileList.Pairwise fun left right => left.1.Before right.1
  /-- A directory is shown in the spelling in which it was made first. -/
  directories : ∀ directory, directory ∈ store.directoryList ↔
    (makings history directory).head? = some directory
  /-- Exactly the places at which a directory was made are shown. -/
  places : ∀ place, (∃ directory ∈ store.directoryList, directory.Same place) ↔
    ∃ directory, Call.createDirectory directory ∈ history ∧ directory.Same place
  directories_increasing : store.directoryList.Pairwise Path.Before

theorem writings_concat (history : List Call) (call : Call) (place : Path) :
    writings (history ++ [call]) place =
      writings history place ++ (call.writing? place).toList := by
  cases found : call.writing? place <;> simp [writings, found]

/-- What lies at a place after a history: the first spelling and the last text. -/
theorem files_after_history (history : List Call) (place : Path) :
    (empty.after history).files[place.components]? =
      (writings history place).head?.bind fun first =>
        (writings history place).getLast?.map fun last => (first.1, last.2) := by
  induction history using List.reverseRecOn with
  | nil => simp [writings, empty]
  | append_singleton earlier call ih =>
      rw [after_append, writings_concat]
      cases call with
      | createDirectory directory =>
          simpa [Call.writing?, carryOut, createDirectory] using ih
      | writeFile path text =>
          by_cases here : path.Same place
          · have spelled : (empty.after earlier).spelling path =
                ((writings earlier place).head?.map Prod.fst).getD path := by
              rw [spelling, here, ih]
              cases writings earlier place with
              | nil => rfl
              | cons first rest => simp [List.getLast?_cons]
            have components : path.components = place.components := here
            simp only [after_cons, after_nil, carryOut, writeFile, spelled, Call.writing?, here,
              if_true, components, Std.TreeMap.getElem?_insert_self, Option.toList_some,
              List.getLast?_concat]
            cases writings earlier place <;> rfl
          · have elsewhere : path.components ≠ place.components := here
            simpa [carryOut, writeFile, Std.TreeMap.getElem?_insert, elsewhere, Call.writing?,
              here] using ih

theorem directories_after_history (history : List Call) (place : Path) :
    (empty.after history).directories.toList.find? (fun path => path.Same place) =
      (makings history place).head? := by
  have chosen : Call.making? place =
      fun call => call.directory?.bind (Option.guard fun path => path.Same place) := by
    funext call
    cases call <;> simp [Call.making?, Call.directory?, Option.guard]
  rw [directories_after, makings, chosen, ← List.filterMap_filterMap, List.filterMap_eq_filter,
    List.head?_filter]
  rfl

theorem recalls_after (history : List Call) : (empty.after history).Recalls history where
  text place := by
    rw [get?, files_after_history]
    cases writings history place with
    | nil => rfl
    | cons first rest => simp [List.getLast?_cons]
  files path text := by
    rw [mem_fileList, files_after_history]
    cases writings history path with
    | nil => simp
    | cons first rest => simp [List.getLast?_cons, Prod.ext_iff]
  files_increasing := pairwise_fileList _
  directories directory := by
    rw [mem_directoryList, directories_after_history]
  places place := by
    rw [exists_same_directoryList_after]
    simp [empty, directoryList, dropRepeats]
  directories_increasing := pairwise_directoryList _

end Store

/-- A store remembers the last text and the first spelling of every place; a writing changes no
other place, and repeated slashes, dots between names and slashes at the end make no other place. -/
theorem store_recalls_history (history : List Call) :
    (Store.empty.after history).Recalls history ∧
    (∀ call, Store.sink.perform call (Store.empty.after history) =
      (.ok (), Store.empty.after (history ++ [call]))) ∧
    (∀ written text place, (Store.empty.after (history ++ [.writeFile written text])).get? place =
      if written.Same place then some text else (Store.empty.after history).get? place) ∧
    (∀ left right : Path, left.Before right ↔
      List.Lex Path.Component.Before left.components right.components) ∧
    ∀ above below, Path.Same ⟨above ++ "//" ++ below⟩ ⟨above ++ "/" ++ below⟩ ∧
      Path.Same ⟨above ++ "/./" ++ below⟩ ⟨above ++ "/" ++ below⟩ ∧
      (above ≠ "" → Path.Same ⟨above ++ "/"⟩ ⟨above⟩) := by
  refine ⟨Store.recalls_after history, ?_, ?_, fun _ _ => Path.before_iff_lex, ?_⟩
  · intro call
    rw [Store.perform_sink, Store.after_append]
    rfl
  · intro written text place
    rw [Store.after_append]
    exact Store.get?_writeFile _ _ _ _
  · intro above below
    refine ⟨?_, ?_, ?_⟩
    · simpa [String.append_assoc] using
        Path.same_idle_between above below (Or.inl rfl : Path.IsIdle "")
    · simpa [String.append_assoc] using
        Path.same_idle_between above below (Or.inr rfl : Path.IsIdle ".")
    · intro nonempty
      simpa using Path.same_idle_behind above nonempty (Or.inl rfl : Path.IsIdle "")

theorem store_recalls_history_three_spellings :
    let history : List Call := [.writeFile ⟨"a//b"⟩ "one", .createDirectory ⟨"a/"⟩,
      .writeFile ⟨"./a/b"⟩ "other", .writeFile ⟨"a/b/"⟩ "two", .createDirectory ⟨"a"⟩]
    "a" ≠ "" ∧ (Store.empty.after history).get? ⟨"a/./b"⟩ = some "two" ∧
      (⟨"a//b"⟩, "two") ∈ (Store.empty.after history).fileList ∧
      ⟨"a/"⟩ ∈ (Store.empty.after history).directoryList ∧ Path.Same ⟨"a/"⟩ ⟨"a"⟩ := by
  intro history
  have nonempty : "a" ≠ "" := by decide
  rcases store_recalls_history history with ⟨recalls, _, _, _, spellings⟩
  rcases spellings "a" "" with ⟨_, _, behind⟩
  refine ⟨nonempty, ?_, ?_, ?_, behind nonempty⟩
  · rw [recalls.text]
    decide +kernel
  · rw [recalls.files]
    decide +kernel
  · rw [recalls.directories]
    decide +kernel

end BenchTree

import BenchTree.Proofs.Store.Snapshot

/-!
# Stores after lists of calls

A store carries out every call, so what it holds after a list of calls is a fold. When no two calls
of the list name one place in the same way, the order does not matter: each written place holds its
one text, every other file is as before, and the directories shown are the same for every
arrangement of the list.
-/

namespace BenchTree

namespace Call

/-- The calls do not make the same directory, and do not write to the same place. -/
def Apart : Call → Call → Prop
  | .createDirectory left, .createDirectory right => ¬left.Same right
  | .writeFile left _, .writeFile right _ => ¬left.Same right
  | _, _ => True

theorem Apart.symm {left right : Call} (apart : left.Apart right) : right.Apart left := by
  cases left <;> cases right <;> simp_all [Apart, Path.Same, eq_comm]

/-- The directory that a call makes. -/
def directory? : Call → Option Path
  | .createDirectory directory => some directory
  | .writeFile _ _ => none

theorem mem_filterMap_directory? {calls : List Call} {directory : Path} :
    directory ∈ calls.filterMap directory? ↔ createDirectory directory ∈ calls := by
  rw [List.mem_filterMap]
  constructor
  · rintro ⟨call, call_mem, same⟩
    cases call with
    | createDirectory other =>
        rw [← Option.some.inj same]
        exact call_mem
    | writeFile path text => cases same
  · intro directory_mem
    exact ⟨_, directory_mem, rfl⟩

end Call

namespace Store

/-- The store after a call. -/
def carryOut (store : Store) : Call → Store
  | .createDirectory directory => store.createDirectory directory
  | .writeFile path text => store.writeFile path text

/-- The store after a list of calls. -/
def after (store : Store) (calls : List Call) : Store := calls.foldl carryOut store

theorem perform_sink (store : Store) (call : Call) :
    sink.perform call store = (.ok (), store.carryOut call) := by
  cases call <;> rfl

@[simp]
theorem after_nil (store : Store) : store.after [] = store := rfl

@[simp]
theorem after_cons (store : Store) (first : Call) (rest : List Call) :
    store.after (first :: rest) = (store.carryOut first).after rest := rfl

@[simp]
theorem after_append (store : Store) (first rest : List Call) :
    store.after (first ++ rest) = (store.after first).after rest := by
  simp [after]

theorem directories_after (store : Store) (calls : List Call) :
    (store.after calls).directories.toList =
      store.directories.toList ++ calls.filterMap Call.directory? := by
  induction calls generalizing store with
  | nil => simp
  | cons first rest ih =>
      cases first <;>
        simp [ih, carryOut, createDirectory, writeFile, Call.directory?, List.filterMap_cons]

/-- A file that no call writes to is as before. -/
theorem files_after_of_forall_ne (store : Store) {calls : List Call}
    {place : List Path.Component}
    (unwritten : ∀ path text, Call.writeFile path text ∈ calls → path.components ≠ place) :
    (store.after calls).files[place]? = store.files[place]? := by
  induction calls generalizing store with
  | nil => rfl
  | cons first rest ih =>
      rw [after_cons, ih _ fun path text later => unwritten path text (by simp [later])]
      cases first with
      | createDirectory directory => rfl
      | writeFile path text =>
          have elsewhere : path.components ≠ place := unwritten path text (by simp)
          simp [carryOut, writeFile, Std.TreeMap.getElem?_insert, elsewhere]

/-- A file to which one call writes holds the text of that call under its first spelling. -/
theorem files_after_of_mem (store : Store) {calls : List Call} (apart : calls.Pairwise Call.Apart)
    {path : Path} {text : String} (written : Call.writeFile path text ∈ calls) :
    (store.after calls).files[path.components]? = some (store.spelling path, text) := by
  induction calls generalizing store with
  | nil => simp at written
  | cons first rest ih =>
      rw [List.pairwise_cons] at apart
      rcases apart with ⟨first_apart, rest_apart⟩
      rw [after_cons]
      rcases List.mem_cons.mp written with rfl | later
      · rw [files_after_of_forall_ne]
        · simp [carryOut, writeFile]
        · intro other otherText other_mem same
          exact first_apart _ other_mem same.symm
      · rw [ih _ rest_apart later]
        cases first with
        | createDirectory directory => rfl
        | writeFile other otherText =>
            have elsewhere : other.components ≠ path.components := first_apart _ later
            simp [spelling, carryOut, writeFile, Std.TreeMap.getElem?_insert, elsewhere]

theorem get?_after_of_mem (store : Store) {calls : List Call} (apart : calls.Pairwise Call.Apart)
    {path place : Path} {text : String} (written : Call.writeFile path text ∈ calls)
    (same : path.Same place) : (store.after calls).get? place = some text := by
  rw [get?, ← same, store.files_after_of_mem apart written]
  rfl

theorem get?_after_of_forall_not_same (store : Store) {calls : List Call} {place : Path}
    (unwritten : ∀ path text, Call.writeFile path text ∈ calls → ¬path.Same place) :
    (store.after calls).get? place = store.get? place := by
  rw [get?, get?, store.files_after_of_forall_ne unwritten]

/-- The directories shown after a list of calls are those from before and those made by a call. -/
theorem exists_same_directoryList_after {store : Store} {calls : List Call} {place : Path} :
    (∃ directory ∈ (store.after calls).directoryList, directory.Same place) ↔
      (∃ directory ∈ store.directoryList, directory.Same place) ∨
        ∃ directory, Call.createDirectory directory ∈ calls ∧ directory.Same place := by
  simp only [exists_same_directoryList, ← Array.mem_toList_iff, directories_after,
    List.mem_append, Call.mem_filterMap_directory?, or_and_right, exists_or]

theorem pairwise_directories_of_apart {calls : List Call} (apart : calls.Pairwise Call.Apart) :
    (calls.filterMap Call.directory?).Pairwise fun left right => ¬left.Same right := by
  rw [List.pairwise_filterMap]
  refine apart.imp ?_
  intro left right left_apart first first_made second second_made
  cases left <;> cases right <;> simp_all [Call.directory?, Call.Apart]

theorem find?_eq_some_of_apart {paths : List Path}
    (apart : paths.Pairwise fun left right => ¬left.Same right) {place path : Path} :
    paths.find? (fun other => other.Same place) = some path ↔ path ∈ paths ∧ path.Same place := by
  induction paths with
  | nil => simp
  | cons first rest ih =>
      rw [List.pairwise_cons] at apart
      by_cases here : first.Same place
      · simp only [List.find?_cons, here, decide_true, Option.some.injEq, List.mem_cons]
        constructor
        · rintro rfl
          exact ⟨Or.inl rfl, here⟩
        · rintro ⟨rfl | later, same⟩
          · rfl
          · exact absurd (here.trans same.symm) (apart.1 path later)
      · simp only [List.find?_cons, here, decide_false, ih apart.2, List.mem_cons]
        constructor
        · rintro ⟨later, same⟩
          exact ⟨Or.inr later, same⟩
        · rintro ⟨rfl | later, same⟩
          · exact absurd same here
          · exact ⟨later, same⟩

/-- Calls that make the same directories, each of them once, show the same directories. -/
theorem directoryList_after_of_made_perm (store : Store) {first second : List Call}
    (first_apart : first.Pairwise Call.Apart) (second_apart : second.Pairwise Call.Apart)
    (made : (first.filterMap Call.directory?).Perm (second.filterMap Call.directory?)) :
    (store.after first).directoryList = (store.after second).directoryList := by
  apply directoryList_congr
  intro place
  have agree : (first.filterMap Call.directory?).find? (fun path => path.Same place) =
      (second.filterMap Call.directory?).find? (fun path => path.Same place) := by
    apply Option.ext
    intro path
    rw [find?_eq_some_of_apart (pairwise_directories_of_apart first_apart),
      find?_eq_some_of_apart (pairwise_directories_of_apart second_apart), made.mem_iff]
  rw [directories_after, directories_after, List.find?_append, List.find?_append, agree]

/-- Calls apart from each other show the same directories in every arrangement. -/
theorem directoryList_after_perm (store : Store) {first second : List Call}
    (apart : first.Pairwise Call.Apart) (perm : first.Perm second) :
    (store.after first).directoryList = (store.after second).directoryList :=
  store.directoryList_after_of_made_perm apart
    (perm.pairwise apart fun left_apart => left_apart.symm) (perm.filterMap Call.directory?)

/-- Calls apart from each other leave the same files in every arrangement. -/
theorem fileList_after_perm (store : Store) {first second : List Call}
    (apart : first.Pairwise Call.Apart) (perm : first.Perm second) :
    (store.after first).fileList = (store.after second).fileList := by
  apply fileList_congr
  intro place
  by_cases written : ∃ path text, Call.writeFile path text ∈ first ∧ path.components = place
  · rcases written with ⟨path, text, written, rfl⟩
    rw [store.files_after_of_mem apart written, store.files_after_of_mem
      (perm.pairwise apart (fun left_apart => left_apart.symm)) (perm.mem_iff.mp written)]
  · push Not at written
    rw [store.files_after_of_forall_ne written, store.files_after_of_forall_ne
      fun path text other_mem => written path text (perm.mem_iff.mpr other_mem)]

end Store

end BenchTree

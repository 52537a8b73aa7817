import BenchTree.Store
import Mathlib

/-!
# What a store shows

A store is looked at in two ways: its directories are sorted and repetitions dropped, and its files
are listed in the order of their places. This file says what both lists depend on. Directories are
sorted stably, so of all spellings of a place the one made first is shown; two histories in which
each place is first made under the same spelling show the same directories. Two stores that hold
the same file at every place list the same files.
-/

namespace BenchTree

namespace Path

/-- A path lies before another one in the order of paths, at another place. -/
def Before (left right : Path) : Prop := compare left.components right.components = .lt

theorem Same.symm {left right : Path} (same : left.Same right) : right.Same left := Eq.symm same

theorem precedes_iff {left right : Path} :
    left.precedes right = true ↔ left.Before right ∨ left.Same right := by
  simp only [precedes, Before, Same, Ordering.isLE_iff_eq_lt_or_eq_eq,
    Std.LawfulEqCmp.compare_eq_iff_eq]

theorem precedes_trans (first second third : Path) (left : first.precedes second = true)
    (right : second.precedes third = true) : first.precedes third = true :=
  Std.TransCmp.isLE_trans left right

theorem precedes_total (left right : Path) :
    (left.precedes right || right.precedes left) = true := by
  simp only [Bool.or_eq_true, precedes]
  cases order : compare left.components right.components with
  | lt => simp
  | eq => simp
  | gt =>
      right
      rw [Std.OrientedCmp.lt_of_gt order]
      rfl

theorem Before.not_same {left right : Path} (before : left.Before right) : ¬left.Same right := by
  intro same
  have equal : compare left.components right.components = .eq :=
    Std.LawfulEqCmp.compare_eq_iff_eq.mpr same
  rw [Before, equal] at before
  cases before

theorem Before.ne {left right : Path} (before : left.Before right) : left ≠ right := by
  rintro rfl
  exact before.not_same rfl

theorem Before.trans_precedes {first second third : Path} (before : first.Before second)
    (precedes : second.precedes third = true) : first.Before third :=
  Std.TransCmp.lt_of_lt_of_isLE before precedes

/-- Lists in strictly increasing order are the same when their members are. -/
theorem eq_of_pairwise_before {left right : List Path} (left_increasing : left.Pairwise Before)
    (right_increasing : right.Pairwise Before) (same : ∀ path, path ∈ left ↔ path ∈ right) :
    left = right := by
  apply List.Perm.eq_of_pairwise _ left_increasing right_increasing
  · rw [List.perm_ext_iff_of_nodup (left_increasing.imp Before.ne)
      (right_increasing.imp Before.ne)]
    exact same
  · intro first second _ _ before after
    exact absurd (Std.OrientedCmp.not_lt_of_lt before after) not_false

end Path

namespace Store

/-- Sorting keeps the order in which the spellings of a place were given. -/
theorem find?_mergeSort (paths : List Path) (place : Path) :
    (paths.mergeSort Path.precedes).find? (fun path => path.Same place) =
      paths.find? (fun path => path.Same place) := by
  have sorted : (paths.filter fun path => path.Same place).Pairwise
      (fun left right => Path.precedes left right) := by
    rw [List.pairwise_filter]
    apply List.pairwise_of_forall
    intro left right left_same right_same
    simp only [decide_eq_true_eq] at left_same right_same
    exact Path.precedes_iff.mpr (Or.inr (left_same.trans right_same.symm))
  have kept := (List.sublist_mergeSort Path.precedes_trans Path.precedes_total sorted
    List.filter_sublist).filter fun path => path.Same place
  rw [List.filter_filter] at kept
  have lengths := ((List.mergeSort_perm paths Path.precedes).filter
    fun path => path.Same place).length_eq
  simp only [Bool.and_self] at kept
  rw [← List.head?_filter, ← List.head?_filter, kept.eq_of_length lengths.symm]

theorem mem_dropRepeatsOf {kept : Path} {paths : List Path}
    (sorted : (kept :: paths).Pairwise fun left right => Path.precedes left right) (path : Path) :
    path ∈ kept :: dropRepeatsOf kept paths ↔
      (kept :: paths).find? (fun other => other.Same path) = some path := by
  induction paths generalizing kept with
  | nil =>
      simp only [dropRepeatsOf, List.mem_singleton, List.find?_singleton]
      constructor
      · rintro rfl
        simp [Path.Same]
      · intro found
        split at found
        · exact (Option.some.inj found).symm
        · cases found
  | cons next rest ih =>
      rw [List.pairwise_cons] at sorted
      rcases sorted with ⟨kept_le, sorted⟩
      by_cases same : kept.Same next
      · have sortedKept : (kept :: rest).Pairwise fun left right => Path.precedes left right := by
          rw [List.pairwise_cons] at sorted ⊢
          exact ⟨fun other other_mem => kept_le other (by simp [other_mem]), sorted.2⟩
        simp only [dropRepeatsOf, same, if_true, ih sortedKept, List.find?_cons]
        by_cases here : kept.Same path
        · simp [here]
        · have elsewhere : ¬next.Same path := fun next_same => here (same.trans next_same)
          simp [here, elsewhere]
      · have before : kept.Before next :=
          (Path.precedes_iff.mp (kept_le next (by simp))).resolve_right same
        have others : ∀ other ∈ next :: rest, ¬kept.Same other := by
          intro other other_mem
          rcases List.mem_cons.mp other_mem with rfl | other_mem
          · exact same
          · have next_precedes := (List.pairwise_cons.mp sorted).1 other other_mem
            exact (before.trans_precedes next_precedes).not_same
        simp only [dropRepeatsOf, same, if_false]
        rw [List.mem_cons, ih sorted]
        by_cases here : kept.Same path
        · have found : (kept :: next :: rest).find? (fun other => other.Same path) = some kept := by
            simp [here]
          rw [found]
          constructor
          · rintro (rfl | found)
            · rfl
            · exact absurd here (others path (List.mem_of_find?_eq_some found))
          · intro kept_eq
            exact Or.inl (Option.some.inj kept_eq).symm
        · have found : (kept :: next :: rest).find? (fun other => other.Same path) =
              (next :: rest).find? (fun other => other.Same path) := by
            simp [here]
          rw [found]
          constructor
          · rintro (rfl | found)
            · exact absurd rfl here
            · exact found
          · exact Or.inr

theorem pairwise_dropRepeatsOf {kept : Path} {paths : List Path}
    (sorted : (kept :: paths).Pairwise fun left right => Path.precedes left right) :
    (kept :: dropRepeatsOf kept paths).Pairwise Path.Before := by
  induction paths generalizing kept with
  | nil => simp [dropRepeatsOf]
  | cons next rest ih =>
      rw [List.pairwise_cons] at sorted
      rcases sorted with ⟨kept_le, sorted⟩
      by_cases same : kept.Same next
      · simp only [dropRepeatsOf, same, if_true]
        apply ih
        rw [List.pairwise_cons] at sorted ⊢
        exact ⟨fun other other_mem => kept_le other (by simp [other_mem]), sorted.2⟩
      · have before : kept.Before next :=
          (Path.precedes_iff.mp (kept_le next (by simp))).resolve_right same
        have increasing := ih sorted
        simp only [dropRepeatsOf, same, if_false]
        rw [List.pairwise_cons]
        refine ⟨?_, increasing⟩
        intro other other_mem
        rcases List.mem_cons.mp other_mem with rfl | other_mem
        · exact before
        · have later := (List.pairwise_cons.mp increasing).1 other other_mem
          exact before.trans_precedes (Path.precedes_iff.mpr (Or.inl later))

theorem pairwise_precedes_mergeSort (paths : List Path) :
    (paths.mergeSort Path.precedes).Pairwise fun left right => Path.precedes left right :=
  List.pairwise_mergeSort Path.precedes_trans Path.precedes_total paths

/-- A directory is shown in the first of the spellings in which its place was made. -/
theorem mem_directoryList {store : Store} {directory : Path} :
    directory ∈ store.directoryList ↔
      store.directories.toList.find? (fun path => path.Same directory) = some directory := by
  have sorted := pairwise_precedes_mergeSort store.directories.toList
  rw [directoryList, ← find?_mergeSort]
  cases paths : store.directories.toList.mergeSort Path.precedes with
  | nil => simp [dropRepeats]
  | cons first rest =>
      rw [paths] at sorted
      exact mem_dropRepeatsOf sorted directory

/-- Directories are shown in strictly increasing order of their places. -/
theorem pairwise_directoryList (store : Store) :
    store.directoryList.Pairwise Path.Before := by
  have sorted := pairwise_precedes_mergeSort store.directories.toList
  rw [directoryList]
  cases paths : store.directories.toList.mergeSort Path.precedes with
  | nil => exact List.Pairwise.nil
  | cons first rest =>
      rw [paths] at sorted
      exact pairwise_dropRepeatsOf sorted

/-- The place of a directory is shown, in whatever spelling, when it was made. -/
theorem exists_same_directoryList {store : Store} {place : Path} :
    (∃ directory ∈ store.directoryList, directory.Same place) ↔
      ∃ directory ∈ store.directories, directory.Same place := by
  constructor
  · rintro ⟨directory, shown, same⟩
    exact ⟨directory, Array.mem_toList_iff.mp
      (List.mem_of_find?_eq_some (mem_directoryList.mp shown)), same⟩
  · rintro ⟨made, made_mem, same⟩
    have found : (store.directories.toList.find? fun path => path.Same place).isSome := by
      rw [List.find?_isSome]
      exact ⟨made, Array.mem_toList_iff.mpr made_mem, by simpa using same⟩
    rcases Option.isSome_iff_exists.mp found with ⟨directory, found⟩
    have directory_same : directory.Same place := by simpa using List.find?_some found
    refine ⟨directory, mem_directoryList.mpr ?_, directory_same⟩
    rw [← found]
    congr 1
    funext path
    exact decide_eq_decide.mpr (by rw [Path.Same, Path.Same, directory_same])

theorem directoryList_congr {left right : Store}
    (agree : ∀ place : Path, left.directories.toList.find? (fun path => path.Same place) =
      right.directories.toList.find? (fun path => path.Same place)) :
    left.directoryList = right.directoryList := by
  apply Path.eq_of_pairwise_before (pairwise_directoryList left) (pairwise_directoryList right)
  intro directory
  rw [mem_directoryList, mem_directoryList, agree]

theorem fileList_congr {left right : Store}
    (agree : ∀ place : List Path.Component, left.files[place]? = right.files[place]?) :
    left.fileList = right.fileList := by
  rw [fileList, fileList, (Std.TreeMap.Equiv.of_forall_constGet?_eq agree).toList_eq]

theorem mem_fileList {store : Store} {file : Path × String} :
    file ∈ store.fileList ↔ store.files[file.1.components]? = some file := by
  simp only [fileList, List.mem_map, Prod.exists, exists_eq_right,
    Std.TreeMap.mem_toList_iff_getElem?_eq_some]
  constructor
  · rintro ⟨place, found⟩
    rw [store.spelled place file found]
    exact found
  · intro found
    exact ⟨_, found⟩

/-- Files are listed in strictly increasing order of their places. -/
theorem pairwise_fileList (store : Store) :
    store.fileList.Pairwise fun left right => left.1.Before right.1 := by
  rw [fileList, List.pairwise_map]
  apply Std.TreeMap.ordered_keys_toList.imp_of_mem
  rintro ⟨leftPlace, left⟩ ⟨rightPlace, right⟩ left_mem right_mem before
  rw [Std.TreeMap.mem_toList_iff_getElem?_eq_some] at left_mem right_mem
  rw [Path.Before, store.spelled _ _ left_mem, store.spelled _ _ right_mem]
  exact before

/-- A text is found at a place when the list has it there, in whatever spelling. -/
theorem get?_eq_some_iff {store : Store} {place : Path} {text : String} :
    store.get? place = some text ↔ ∃ path, (path, text) ∈ store.fileList ∧ path.Same place := by
  simp only [get?, mem_fileList, Option.map_eq_some_iff, Prod.exists]
  constructor
  · rintro ⟨path, _, found, rfl⟩
    have same := store.spelled _ _ found
    exact ⟨path, by rw [same, found], same⟩
  · rintro ⟨path, found, same⟩
    exact ⟨path, text, by rw [← same, found], rfl⟩

end Store

end BenchTree

import BenchTree.Sink

/-!
# Trees in memory

A store notes every directory that it is asked for and keeps files by place. A file keeps the
spelling in which it was first written and holds the text that was written last. Nothing is
refused: a file may be written where no directory was made. Directories are put in order, and
repetitions dropped, only when the store is asked for them; a place then has the spelling in which
it was made first.
-/

namespace BenchTree

/-- Directories in the order in which they were made, and files by the places of their paths. -/
structure Store where
  directories : Array Path
  files : Std.TreeMap (List Path.Component) (Path × String)
  /-- A file lies at the place of its spelling. -/
  spelled : ∀ (place : List Path.Component) (entry : Path × String),
    files[place]? = some entry → entry.1.components = place

namespace Store

/-- A store without files and directories. -/
def empty : Store := ⟨#[], ∅, by simp⟩

/-- Notes a directory, also one that is there. -/
def createDirectory (store : Store) (directory : Path) : Store :=
  { store with directories := store.directories.push directory }

/-- The spelling of the file at the place of a path; a new file is spelled as the path is. -/
def spelling (store : Store) (path : Path) : Path :=
  match store.files[path.components]? with
  | some (spelling, _) => spelling
  | none => path

theorem components_spelling (store : Store) (path : Path) :
    (store.spelling path).components = path.components := by
  unfold spelling
  split
  · rename_i spelling text found
    exact store.spelled _ _ found
  · rfl

/-- Writes a file; a place that is there keeps its spelling and takes the new text. -/
def writeFile (store : Store) (path : Path) (text : String) : Store :=
  { store with
    files := store.files.insert path.components (store.spelling path, text)
    spelled := by
      intro place entry found
      rw [Std.TreeMap.getElem?_insert] at found
      split at found
      · rename_i same
        rw [← Option.some.inj found, components_spelling, Std.LawfulEqCmp.eq_of_compare same]
      · exact store.spelled place entry found }

/-- A store takes every call. -/
def sink : Sink Store where
  perform
    | .createDirectory directory, store => (.ok (), store.createDirectory directory)
    | .writeFile path text, store => (.ok (), store.writeFile path text)

/-- The text of the file at a path, in whatever spelling. -/
def get? (store : Store) (path : Path) : Option String :=
  store.files[path.components]?.map (·.2)

@[simp]
theorem get?_empty (path : Path) : empty.get? path = none := by
  simp [get?, empty]

/-- A file holds what was written last to its place, under any spelling; others are as before. -/
theorem get?_writeFile (store : Store) (written path : Path) (text : String) :
    (store.writeFile written text).get? path =
      if written.Same path then some text else store.get? path := by
  simp only [get?, writeFile, Std.TreeMap.getElem?_insert, Std.LawfulEqCmp.compare_eq_iff_eq,
    Path.Same]
  by_cases same : written.components = path.components <;> simp [same]

@[simp]
theorem get?_createDirectory (store : Store) (directory path : Path) :
    (store.createDirectory directory).get? path = store.get? path := rfl

/-- The paths of a list behind one that was kept, without those at the place of the one before. -/
def dropRepeatsOf (kept : Path) : List Path → List Path
  | [] => []
  | path :: rest =>
      if kept.Same path then dropRepeatsOf kept rest else path :: dropRepeatsOf path rest

/-- The first path of each run of paths at one place. -/
def dropRepeats : List Path → List Path
  | [] => []
  | first :: rest => first :: dropRepeatsOf first rest

/-- The directories in the order of paths, each place once and as it was spelled first. -/
def directoryList (store : Store) : List Path :=
  dropRepeats (store.directories.toList.mergeSort Path.precedes)

/-- The files of a store, each by its path and text, in the order of paths. -/
def fileList (store : Store) : List (Path × String) := store.files.toList.map Prod.snd

end Store

end BenchTree

import BenchTree.FileSystem

/-!
# File trees

A disk holds directories and files at locations, which are lists of names from the root. There are
no links. A path is followed from the root or from the working directory, name by name; two dots
lead to the directory above, at the root to the root itself. What is missing on the way, is no
directory, or has too long a name stops the walk.
-/

namespace BenchTree

/-- A place on a disk: the names that lead to it from the root. -/
abbrev Location := List String

/-- What a disk holds at a location. -/
inductive Entry where
  | directory
  | file (content : ByteArray)

/-- Two files are the same entry when their bytes are the same. -/
instance : DecidableEq Entry
  | .directory, .directory => .isTrue rfl
  | .directory, .file _ => .isFalse nofun
  | .file _, .directory => .isFalse nofun
  | .file left, .file right =>
      if same : left.data = right.data then
        .isTrue (congrArg Entry.file (ByteArray.ext same))
      else .isFalse fun equal => same (congrArg ByteArray.data (Entry.file.inj equal))

/-- Entries by location, and the location from which relative paths are followed. -/
structure Disk where
  entries : List (Location × Entry)
  workingDirectory : Location

namespace Disk

/-- The disk whose only directory below the root is an empty working directory of this name. -/
def empty (workingDirectory : String) : Disk :=
  ⟨[([workingDirectory], .directory)], [workingDirectory]⟩

/-- What a disk holds at a location; the root is always a directory. -/
def find? (disk : Disk) (location : Location) : Option Entry :=
  if location = [] then some .directory else disk.entries.lookup location

/-- Puts an entry at a location, in place of the one that is there. -/
def put (disk : Disk) (location : Location) (entry : Entry) : Disk :=
  let replaced := disk.entries.map fun (place, old) =>
    (place, if place = location then entry else old)
  let added := if (disk.entries.lookup location).isSome then [] else [(location, entry)]
  { disk with entries := replaced ++ added }

/-- Changing what stands at a location changes no look-up elsewhere. -/
theorem lookup_replace (entries : List (Location × Entry)) (location place : Location)
    (entry : Entry) :
    (entries.map fun (spot, old) => (spot, if spot = location then entry else old)).lookup place =
      if place = location then (entries.lookup location).map fun _ => entry
      else entries.lookup place := by
  induction entries with
  | nil => simp
  | cons first rest inductionHypothesis =>
    obtain ⟨spot, old⟩ := first
    simp only [List.map_cons, List.lookup_cons, inductionHypothesis]
    by_cases here : place = spot
    · subst here
      by_cases target : place = location <;> simp [target]
    · have elsewhere : (place == spot) = false := by simpa using here
      by_cases target : place = location
      · subst target
        simp [elsewhere]
      · simp [elsewhere, target]

/-- The entry that was put last at a location is found there; others are as before. -/
theorem find?_put (disk : Disk) (location place : Location) (entry : Entry) :
    (disk.put location entry).find? place =
      if place = [] then some .directory
      else if place = location then some entry else disk.find? place := by
  by_cases root : place = []
  · simp [find?, root]
  · simp only [find?, put, root, if_false, List.lookup_append, lookup_replace]
    by_cases target : place = location
    · subst target
      cases found : disk.entries.lookup place <;> simp
    · have other : (place == location) = false := by simpa using target
      by_cases present : (disk.entries.lookup location).isSome <;>
        simp [present, target, List.lookup_cons, other]

/-- There is a directory at a location. -/
def isDirectory (disk : Disk) (location : Location) : Bool :=
  disk.find? location = some .directory

/-- The longest name of an entry, in bytes. -/
def longestName : Nat := 255

/-- The longest text of a path, in bytes. -/
def longestPath : Nat := 4095

/-- The names of a path, dots among them. -/
def names (path : Path) : List String :=
  (path.pieces.filter (· ≠ [])).map String.ofList

/-- A slash ends the path, so that only a directory can be meant. -/
def endsInSlash (path : Path) : Bool := path.text.toList.getLast? = some '/'

/-- A path that no system call takes is refused before any entry is looked at. -/
def checkPath (path : Path) : Except IoError Unit :=
  if path.text.toList.contains '\x00' then .error .nulInPath
  else if path.text = "" then .error .notFound
  else if longestPath < path.text.utf8ByteSize then .error .nameTooLong
  else .ok ()

/-- Follows names from a location; each step starts in a directory. -/
def walk (disk : Disk) : Location → List String → Except IoError Location
  | location, [] => .ok location
  | location, name :: rest =>
      if !disk.isDirectory location then .error .notADirectory
      else if name = "." then disk.walk location rest
      else if name = ".." then disk.walk location.dropLast rest
      else if longestName < name.utf8ByteSize then .error .nameTooLong
      else match disk.find? (location ++ [name]) with
        | some _ => disk.walk (location ++ [name]) rest
        | none => .error .notFound

/-- The location from which a path leads on. -/
def start (disk : Disk) (path : Path) : Location :=
  if path.isAbsolute then [] else disk.workingDirectory

/-- The location of the entry at a path. -/
def locate (disk : Disk) (path : Path) : Except IoError Location := do
  checkPath path
  let location ← disk.walk (disk.start path) (names path)
  if endsInSlash path && !disk.isDirectory location then .error .notADirectory
  else .ok location

/-- A path leads to a directory. -/
def isDirectoryAt (disk : Disk) (path : Path) : Bool :=
  match disk.locate path with
  | .ok location => disk.isDirectory location
  | .error _ => false

/-- Where a new entry may go: a directory and a last name, unless the path ends in dots. -/
inductive Target where
  | dots
  | entry (directory : Location) (name : String)

/-- Follows a path up to its last name. -/
def locateTarget (disk : Disk) (path : Path) : Except IoError Target := do
  checkPath path
  match (names path).getLast? with
  | none => .ok .dots
  | some name =>
      let directory ← disk.walk (disk.start path) (names path).dropLast
      if !disk.isDirectory directory then .error .notADirectory
      else if name = "." ∨ name = ".." then .ok .dots
      else .ok (.entry directory name)

/-- Makes one directory in a directory that is there. -/
def makeDirectory (disk : Disk) (path : Path) : Except IoError Disk := do
  match ← disk.locateTarget path with
  | .dots => .error .alreadyExists
  | .entry directory name =>
      if longestName < name.utf8ByteSize then .error .nameTooLong
      else if (disk.find? (directory ++ [name])).isSome then .error .alreadyExists
      else .ok (disk.put (directory ++ [name]) .directory)

/-- Writes a file in a directory that is there, replacing the content of a file that is there. -/
def writeFile (disk : Disk) (path : Path) (content : ByteArray) : Except IoError Disk := do
  match ← disk.locateTarget path with
  | .dots => .error .isADirectory
  | .entry directory name =>
      if endsInSlash path then .error .isADirectory
      else if longestName < name.utf8ByteSize then .error .nameTooLong
      else if disk.isDirectory (directory ++ [name]) then .error .isADirectory
      else .ok (disk.put (directory ++ [name]) (.file content))

/-- The content of the file at a path. -/
def readFile (disk : Disk) (path : Path) : Except IoError ByteArray := do
  match disk.find? (← disk.locate path) with
  | some (.file content) => .ok content
  | some .directory => .error .isADirectory
  | none => .error .notFound

/-- The text of the file at a path. -/
def readText (disk : Disk) (path : Path) : Except IoError String :=
  FileSystem.decode (disk.readFile path)

/-- The disk after an operation that changes nothing when it fails. -/
def update (disk : Disk) : Except IoError Disk → Except IoError Unit × Disk
  | .ok changed => (.ok (), changed)
  | .error problem => (.error problem, disk)

/-- The file system whose actions change a disk. -/
def system : FileSystem (StateM Disk) where
  makeDirectory path disk := disk.update (disk.makeDirectory path)
  isDirectory path disk := (disk.isDirectoryAt path, disk)
  writeFile path content disk := disk.update (disk.writeFile path content)
  readFile path disk := (disk.readFile path, disk)

@[simp]
theorem run_makeDirectory (disk : Disk) (path : Path) :
    (system.makeDirectory path).run disk = disk.update (disk.makeDirectory path) := rfl

@[simp]
theorem run_writeFile (disk : Disk) (path : Path) (content : ByteArray) :
    (system.writeFile path content).run disk = disk.update (disk.writeFile path content) := rfl

/-- Makes the first of the given directories, each of which lies in the next one. -/
def makeFirst (disk : Disk) (paths : List Path) : Except IoError Unit × Disk :=
  (system.makeFirst paths).run disk

@[simp]
theorem makeFirst_nil (disk : Disk) : disk.makeFirst [] = (.ok (), disk) := rfl

/-- A directory is made at once, or behind those above it, or it was there before. -/
theorem makeFirst_cons (disk : Disk) (path : Path) (above : List Path) :
    disk.makeFirst (path :: above) =
      match disk.makeDirectory path with
      | .ok made => (.ok (), made)
      | .error .notFound =>
          match disk.makeFirst above with
          | (.error problem, disk) => (.error problem, disk)
          | (.ok (), disk) =>
              match disk.makeDirectory path with
              | .ok made => (.ok (), made)
              | .error problem =>
                  (FileSystem.acceptExisting problem (disk.isDirectoryAt path), disk)
      | .error problem => (FileSystem.acceptExisting problem (disk.isDirectoryAt path), disk) := by
  rw [makeFirst, FileSystem.makeFirst, StateT.run_bind, run_makeDirectory]
  rcases disk.makeDirectory path with problem | made
  · cases problem with
    | notFound =>
      change (system.makeFirst above >>= _).run disk = _
      rw [StateT.run_bind, makeFirst]
      rcases (system.makeFirst above).run disk with ⟨_ | _, between⟩
      · rfl
      · change (system.makeDirectory path >>= _).run between = _
        rw [StateT.run_bind, run_makeDirectory]
        rcases second : between.makeDirectory path <;> simp only [second] <;> rfl
    | _ => rfl
  · rfl

/-- Makes a directory and its missing parents. -/
def createDirectory (disk : Disk) (path : Path) : Except IoError Unit × Disk :=
  disk.makeFirst path.ancestors

/-- A disk carries out calls as a file system does. -/
def sink : Sink Disk where
  perform call disk := (system.perform call).run disk

/-- The entries below the working directory, by the text of their relative paths, in order. -/
def tree (disk : Disk) : List (String × Entry) :=
  let below := disk.entries.filterMap fun (location, entry) =>
    if location ≠ disk.workingDirectory ∧ disk.workingDirectory.isPrefixOf location then
      some ("/".intercalate (location.drop disk.workingDirectory.length), entry)
    else none
  below.mergeSort fun left right => (compare left.1 right.1).isLE

end Disk

end BenchTree

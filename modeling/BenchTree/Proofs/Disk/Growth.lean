import BenchTree.Proofs.Disk.Following

/-!
# What calls keep on a disk

No call removes an entry, turns a file into a directory or a directory into a file. So what leads
to a directory goes on leading there, and a file that was written can be found and read under the
path it was written to, however that is spelled. Two disks that show the same entries answer in the
same way.
-/

namespace BenchTree.Disk

variable {before middle after disk other next : Disk} {path : Path} {place location : Location}

/-- No entry is lost, and none becomes an entry of the other kind. -/
structure Grows (before after : Disk) : Prop where
  workingDirectory : after.workingDirectory = before.workingDirectory
  kept : ∀ place entry, before.find? place = some entry →
    ∃ later, after.find? place = some later ∧ (later = .directory ↔ entry = .directory)

namespace Grows

theorem refl (disk : Disk) : disk.Grows disk := ⟨rfl, fun _ entry found => ⟨entry, found, .rfl⟩⟩

theorem trans (first : before.Grows middle) (second : middle.Grows after) : before.Grows after := by
  refine ⟨second.workingDirectory.trans first.workingDirectory, ?_⟩
  intro place entry found
  rcases first.kept place entry found with ⟨between, between_found, between_iff⟩
  rcases second.kept place between between_found with ⟨later, later_found, later_iff⟩
  exact ⟨later, later_found, later_iff.trans between_iff⟩

theorem directory (grows : before.Grows after) (here : before.find? place = some .directory) :
    after.find? place = some .directory := by
  rcases grows.kept place _ here with ⟨later, found, same⟩
  rw [found, same.mpr rfl]

theorem start_eq (grows : before.Grows after) (path : Path) :
    after.start path = before.start path := by
  rw [start, start, grows.workingDirectory]

/-- A walk that arrives goes on arriving. -/
theorem walk (grows : before.Grows after) {names : List String}
    (walked : before.walk location names = .ok place) :
    after.walk location names = .ok place := by
  induction names generalizing location with
  | nil => exact walked
  | cons name rest ih =>
      rw [Disk.walk] at walked
      split at walked
      · cases walked
      · rename_i here
        rw [Bool.not_eq_true', Bool.not_eq_false, isDirectory_iff] at here
        rw [Disk.walk, isDirectory_iff.mpr (grows.directory here), if_neg (by simp)]
        split at walked
        · rename_i dot
          rw [if_pos dot]
          exact ih walked
        · rename_i notDot
          rw [if_neg notDot]
          split at walked
          · rename_i dots
            rw [if_pos dots]
            exact ih walked
          · rename_i notDots
            rw [if_neg notDots]
            split at walked
            · cases walked
            · rename_i short
              rw [if_neg short]
              split at walked
              · rename_i entry found
                rcases grows.kept _ _ found with ⟨later, later_found, _⟩
                rw [later_found]
                exact ih walked
              · cases walked

theorem leadsTo (grows : before.Grows after) (leads : before.LeadsTo path place) :
    after.LeadsTo path place := by
  refine ⟨?_, grows.directory leads.directory⟩
  rw [grows.start_eq]
  exact grows.walk leads.walked

end Grows

/-- An entry that is put where there is none, or one of its kind, takes nothing away. -/
theorem Gains.grows {entry : Entry} (gains : disk.Gains place entry next)
    (same : ∀ old, disk.find? place = some old → (entry = .directory ↔ old = .directory)) :
    disk.Grows next := by
  refine ⟨gains.workingDirectory, ?_⟩
  intro spot old found
  by_cases here : spot = place
  · subst here
    exact ⟨entry, gains.here, same old found⟩
  · exact ⟨old, (gains.elsewhere spot here).trans found, .rfl⟩

/-- A new entry goes into a directory that the names in front of its own lead to. -/
theorem of_locateTarget_eq_entry {name : String}
    (located : disk.locateTarget path = .ok (.entry place name)) :
    checkPath path = .ok () ∧ (∃ front, Disk.names path = front ++ [name] ∧
      disk.walk (disk.start path) front = .ok place) ∧
      disk.find? place = some .directory ∧ name ≠ "." ∧ name ≠ ".." := by
  rcases exists_of_bind_eq_ok located with ⟨_, checked, located⟩
  refine ⟨checked, ?_⟩
  cases last : (Disk.names path).getLast? with
  | none =>
      rw [last] at located
      cases located
  | some final =>
      obtain ⟨front, names_eq⟩ := List.getLast?_eq_some_iff.mp last
      rw [last] at located
      rcases exists_of_bind_eq_ok located with ⟨directory, walked, located⟩
      rw [names_eq, List.dropLast_concat] at walked
      split at located
      · cases located
      · rename_i here
        rw [Bool.not_eq_true', Bool.not_eq_false, isDirectory_iff] at here
        split at located
        · cases located
        · rename_i notDots
          obtain ⟨rfl, rfl⟩ := Target.entry.inj (Except.ok.inj located)
          rw [not_or] at notDots
          exact ⟨⟨front, names_eq, walked⟩, here, notDots⟩

theorem grows_of_makeDirectory (made : disk.makeDirectory path = .ok next) : disk.Grows next := by
  rcases exists_of_bind_eq_ok made with ⟨target, _, made⟩
  cases target with
  | dots => cases made
  | entry directory name =>
      simp only at made
      split at made
      · cases made
      · split at made
        · cases made
        · rename_i absent
          rw [Option.not_isSome_iff_eq_none] at absent
          obtain rfl := Except.ok.inj made
          exact (disk.gains_put (by simp) .directory).grows (by simp [absent])

theorem grows_makeFirst (disk : Disk) (paths : List Path) :
    disk.Grows (disk.makeFirst paths).2 := by
  induction paths with
  | nil => exact .refl disk
  | cons path above ih =>
      rw [makeFirst_cons]
      split
      · rename_i made first
        exact grows_of_makeDirectory first
      · split
        · rename_i problem between above_eq
          rw [above_eq] at ih
          exact ih
        · rename_i between above_eq
          rw [above_eq] at ih
          split
          · rename_i made second
            exact ih.trans (grows_of_makeDirectory second)
          · exact ih
      · exact .refl disk

/-- What becomes of a file: it is found under its path, and nothing else changes. -/
structure Written (disk : Disk) (path : Path) (place : Location) (content : ByteArray)
    (next : Disk) : Prop where
  gains : disk.Gains place (.file content) next
  grows : disk.Grows next
  located : next.locate path = .ok place

theorem exists_written_of_writeFile {content : ByteArray}
    (written : disk.writeFile path content = .ok next) :
    ∃ place, disk.Written path place content next := by
  rcases exists_of_bind_eq_ok written with ⟨target, located, written⟩
  cases target with
  | dots => cases written
  | entry directory name =>
      rcases of_locateTarget_eq_entry located with
        ⟨checked, ⟨front, names_eq, walked⟩, here, notDot, notDots⟩
      simp only at written
      split at written
      · cases written
      · rename_i noSlash
        split at written
        · cases written
        · rename_i short
          split at written
          · cases written
          · rename_i notDirectory
            rw [isDirectory_iff] at notDirectory
            obtain rfl := Except.ok.inj written
            have notRoot : directory ++ [name] ≠ [] := by simp
            have gains := disk.gains_put notRoot (.file content)
            have grows := gains.grows fun old found => by
              constructor
              · intro same
                cases same
              · rintro rfl
                exact absurd found notDirectory
            refine ⟨directory ++ [name], gains, grows, ?_⟩
            rw [locate, checked, names_eq, walk_append, grows.start_eq, grows.walk walked]
            simp only [bind, Except.bind]
            rw [Disk.walk, isDirectory_iff.mpr (grows.directory here), if_neg (by simp),
              if_neg notDot, if_neg notDots, if_neg short, gains.here]
            simp [Disk.walk, noSlash]

theorem Written.readFile {content : ByteArray} (written : disk.Written path place content next) :
    next.readFile path = .ok content := by
  rw [Disk.readFile, written.located]
  simp only [bind, Except.bind, written.gains.here]

/-- A text can be read where it was written. -/
theorem Written.readText {text : String} (written : disk.Written path place text.toUTF8 next) :
    next.readText path = .ok text := by
  have restored : String.fromUTF8? text.toUTF8 = some text := by
    rw [String.fromUTF8?, String.toUTF8, dif_pos text.isValidUTF8]
    rfl
  rw [Disk.readText, FileSystem.decode, written.readFile]
  simp only [bind, Except.bind, restored]

theorem grows_perform (call : Call) (disk : Disk) : disk.Grows (sink.perform call disk).2 := by
  cases call with
  | createDirectory directory => exact disk.grows_makeFirst directory.ancestors
  | writeFile path text =>
      change disk.Grows (disk.update (disk.writeFile path text.toUTF8)).2
      cases written : disk.writeFile path text.toUTF8 with
      | error problem => exact .refl disk
      | ok changed =>
          rcases exists_written_of_writeFile written with ⟨place, found⟩
          exact found.grows

/-- Two disks show the same entries. -/
structure Alike (left right : Disk) : Prop where
  workingDirectory : left.workingDirectory = right.workingDirectory
  find?_eq : ∀ place, left.find? place = right.find? place

namespace Alike

variable {left right : Disk}

theorem refl (disk : Disk) : disk.Alike disk := ⟨rfl, fun _ => rfl⟩

theorem symm (alike : left.Alike right) : right.Alike left :=
  ⟨alike.workingDirectory.symm, fun place => (alike.find?_eq place).symm⟩

theorem trans {third : Disk} (alike : left.Alike right) (others : right.Alike third) :
    left.Alike third :=
  ⟨alike.workingDirectory.trans others.workingDirectory,
    fun place => (alike.find?_eq place).trans (others.find?_eq place)⟩

theorem grows (alike : left.Alike right) : left.Grows right := by
  refine ⟨alike.workingDirectory.symm, fun place entry found => ⟨entry, ?_, .rfl⟩⟩
  rw [← alike.find?_eq, found]

theorem isDirectory_eq (alike : left.Alike right) (place : Location) :
    left.isDirectory place = right.isDirectory place := by
  rw [isDirectory, isDirectory, alike.find?_eq]

theorem walk_eq (alike : left.Alike right) (location : Location) (names : List String) :
    left.walk location names = right.walk location names := by
  induction names generalizing location with
  | nil => rfl
  | cons name rest ih => simp only [walk, alike.isDirectory_eq, alike.find?_eq, ih]

theorem locateTarget_eq (alike : left.Alike right) (path : Path) :
    left.locateTarget path = right.locateTarget path := by
  simp only [locateTarget, start, alike.workingDirectory, alike.walk_eq, alike.isDirectory_eq]

theorem put (alike : left.Alike right) (place : Location) (entry : Entry) :
    (left.put place entry).Alike (right.put place entry) := by
  refine ⟨alike.workingDirectory, ?_⟩
  intro other
  rw [find?_put, find?_put, alike.find?_eq]

/-- A file that can be written on a disk can be written on one that shows the same. -/
theorem writeFile (alike : left.Alike right) {content : ByteArray}
    (written : left.writeFile path content = .ok next) :
    ∃ other, right.writeFile path content = .ok other ∧ next.Alike other := by
  rcases exists_of_bind_eq_ok written with ⟨target, located, written⟩
  rw [alike.locateTarget_eq] at located
  rw [Disk.writeFile, located]
  cases target with
  | dots => cases written
  | entry directory name =>
      simp only at written
      split at written
      · cases written
      · rename_i noSlash
        split at written
        · cases written
        · rename_i short
          split at written
          · cases written
          · rename_i notDirectory
            obtain rfl := Except.ok.inj written
            rw [alike.isDirectory_eq] at notDirectory
            simp only [bind, Except.bind, if_neg noSlash, if_neg short, if_neg notDirectory]
            exact ⟨_, rfl, alike.put _ _⟩

end Alike

end BenchTree.Disk

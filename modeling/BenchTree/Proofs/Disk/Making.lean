import BenchTree.Proofs.Disk.Following

/-!
# Making directories and writing files

When the directories of a path can be made, all prefixes of its names lead to directories
afterwards, no file was in the way, and nothing else has changed. When a file can be written, it
lies in a directory. Conversely, directories can be made where no file is in the way, and a file
can be written into a directory where there is no directory of its name, as long as the names and
the path are not too long.
-/

namespace BenchTree.Disk

variable {disk made : Disk} {front names : List String} {last : String}

/-- No place is listed twice. -/
def Distinct (disk : Disk) : Prop := (disk.entries.map Prod.fst).Nodup

theorem Distinct.put (distinct : disk.Distinct) (location : Location) (entry : Entry) :
    (disk.put location entry).Distinct := by
  have places : (disk.put location entry).entries.map Prod.fst = disk.entries.map Prod.fst
      ++ if (disk.entries.lookup location).isSome then [] else [location] := by
    by_cases present : (disk.entries.lookup location).isSome <;>
      simp [Disk.put, present, Function.comp_def]
  rw [Distinct, places]
  split
  · rw [List.append_nil]
    exact distinct
  · rename_i absent
    rw [Option.not_isSome_iff_eq_none, List.lookup_eq_none_iff] at absent
    have fresh : location ∉ disk.entries.map Prod.fst := by
      intro location_mem
      rcases List.mem_map.mp location_mem with ⟨other, other_mem, rfl⟩
      simpa using absent other other_mem
    exact List.nodup_append_comm.mp (List.nodup_cons.mpr ⟨fresh, distinct⟩)

/-- The names of a path, and its text, are not too long for the system. -/
structure Fits (path : Path) : Prop where
  short : ∀ name ∈ Disk.names path, name.utf8ByteSize ≤ longestName
  shortText : path.text.utf8ByteSize ≤ longestPath

/-- Whether a path fits is found out by measuring it and its names. -/
instance (path : Path) : Decidable (Fits path) :=
  decidable_of_iff ((∀ name ∈ Disk.names path, name.utf8ByteSize ≤ longestName) ∧
      path.text.utf8ByteSize ≤ longestPath)
    ⟨fun both => ⟨both.1, both.2⟩, fun fits => ⟨fits.short, fits.shortText⟩⟩

theorem fits_ofNames (ordinary : ∀ name ∈ names, Path.IsOrdinary name) :
    Fits (.ofNames names) ↔ (∀ name ∈ names, name.utf8ByteSize ≤ longestName) ∧
      (Path.ofNames names).text.utf8ByteSize ≤ longestPath := by
  have spelled := names_ofNames ordinary
  constructor
  · rintro ⟨short, shortText⟩
    exact ⟨by rwa [spelled] at short, shortText⟩
  · rintro ⟨short, shortText⟩
    exact ⟨by rwa [spelled], shortText⟩

/-- The names are ordinary and hold no byte at which a system call stops reading. -/
structure ArePlain (names : List String) : Prop where
  ordinary : ∀ name ∈ names, Path.IsOrdinary name
  noNul : ∀ name ∈ names, '\x00' ∉ name.toList

/-- Whether names are plain is found out name by name. -/
instance (names : List String) : Decidable (ArePlain names) :=
  decidable_of_iff ((∀ name ∈ names, Path.IsOrdinary name) ∧ ∀ name ∈ names, '\x00' ∉ name.toList)
    ⟨fun both => ⟨both.1, both.2⟩, fun plain => ⟨plain.ordinary, plain.noNul⟩⟩

theorem ArePlain.of_concat (plain : ArePlain (front ++ [last])) : ArePlain front :=
  ⟨(List.forall_mem_append.mp plain.ordinary).1, (List.forall_mem_append.mp plain.noNul).1⟩

theorem Fits.short_names (fits : Fits (.ofNames names))
    (ordinary : ∀ name ∈ names, Path.IsOrdinary name) :
    ∀ name ∈ names, name.utf8ByteSize ≤ longestName :=
  ((fits_ofNames ordinary).mp fits).1

theorem Fits.of_concat (fits : Fits (.ofNames (front ++ [last])))
    (ordinary : ∀ name ∈ front ++ [last], Path.IsOrdinary name) : Fits (.ofNames front) := by
  have front_ordinary := (List.forall_mem_append.mp ordinary).1
  rcases (fits_ofNames ordinary).mp fits with ⟨short, longer⟩
  refine (fits_ofNames front_ordinary).mpr ⟨(List.forall_mem_append.mp short).1, ?_⟩
  cases front with
  | nil => exact Nat.zero_le _
  | cons first others =>
      rw [Path.ofNames, Path.intercalate_concat _ _ (List.cons_ne_nil _ _)] at longer
      simp only [String.utf8ByteSize_append] at longer
      exact (Nat.le_add_right _ _).trans ((Nat.le_add_right _ _).trans longer)

theorem not_mem_ofNames (plain : ArePlain names) :
    '\x00' ∉ (Path.ofNames names).text.toList := by
  induction names using List.reverseRecOn with
  | nil => simp [Path.ofNames]
  | append_singleton front last ih =>
      have last_plain := plain.noNul last (by simp)
      cases front with
      | nil => simpa [Path.ofNames] using last_plain
      | cons first others =>
          rw [Path.ofNames, Path.intercalate_concat _ _ (List.cons_ne_nil _ _)]
          simp only [String.toList_append, List.mem_append, not_or]
          exact ⟨⟨ih plain.of_concat, by decide⟩, last_plain⟩

theorem checkPath_concat (plain : ArePlain (front ++ [last]))
    (fits : Fits (.ofNames (front ++ [last]))) :
    checkPath (.ofNames (front ++ [last])) = .ok () := by
  have notEmpty : (Path.ofNames (front ++ [last])).text ≠ "" := by
    rw [← Path.join_ofNames plain.of_concat.ordinary]
    exact (Path.join_name_ne _ (plain.ordinary last (by simp))).1
  rw [checkPath, if_neg (by simpa using not_mem_ofNames plain), if_neg notEmpty,
    if_neg (Nat.not_lt.mpr fits.shortText)]

theorem shortText_of_checkPath {path : Path} (checked : checkPath path = .ok ()) :
    path.text.utf8ByteSize ≤ longestPath := by
  rw [checkPath] at checked
  split at checked
  · cases checked
  · split at checked
    · cases checked
    · split at checked
      · cases checked
      · rename_i short
        exact Nat.not_lt.mp short

theorem locateTarget_concat (disk : Disk)
    (ordinary : ∀ name ∈ front ++ [last], Path.IsOrdinary name) :
    disk.locateTarget (.ofNames (front ++ [last])) =
      (checkPath (.ofNames (front ++ [last])) >>= fun _ =>
        disk.walk disk.workingDirectory front >>= fun directory =>
          if disk.isDirectory directory then .ok (.entry directory last)
          else .error .notADirectory) := by
  have front_ordinary := (List.forall_mem_append.mp ordinary).1
  have target := disk.locateTarget_join (.ofNames front) (ordinary last (by simp))
  rw [Path.join_ofNames front_ordinary, names_ofNames front_ordinary,
    start_ofNames disk front_ordinary] at target
  exact target

/-- A new entry goes into a directory. -/
theorem eq_entry_of_locateTarget (ordinary : ∀ name ∈ front ++ [last], Path.IsOrdinary name)
    {target : Target} (located : disk.locateTarget (.ofNames (front ++ [last])) = .ok target) :
    target = .entry (disk.workingDirectory ++ front) last ∧
      disk.HasDirectories disk.workingDirectory front ∧
      (last.utf8ByteSize ≤ longestName → Fits (.ofNames (front ++ [last]))) := by
  have front_ordinary := (List.forall_mem_append.mp ordinary).1
  rw [locateTarget_concat disk ordinary] at located
  rcases exists_of_bind_eq_ok located with ⟨_, checked, located⟩
  rcases exists_of_bind_eq_ok located with ⟨directory, walked, located⟩
  split at located
  · rename_i here
    rcases hasDirectories_of_walk front_ordinary walked (isDirectory_iff.mp here) with
      ⟨rfl, directories, front_short⟩
    refine ⟨(Except.ok.inj located).symm, directories, ?_⟩
    intro last_short
    refine (fits_ofNames ordinary).mpr ⟨?_, shortText_of_checkPath checked⟩
    simpa [or_imp, forall_and] using ⟨front_short, last_short⟩
  · cases located

theorem hasDirectories_of_isDirectoryAt (ordinary : ∀ name ∈ names, Path.IsOrdinary name)
    (found : disk.isDirectoryAt (.ofNames names) = true) :
    disk.HasDirectories disk.workingDirectory names ∧ Fits (.ofNames names) := by
  rw [isDirectoryAt] at found
  split at found
  · rename_i location located
    rw [locate, names_ofNames ordinary, start_ofNames disk ordinary,
      endsInSlash_ofNames ordinary] at located
    rcases exists_of_bind_eq_ok located with ⟨_, checked, located⟩
    rcases exists_of_bind_eq_ok located with ⟨target, walked, located⟩
    obtain rfl := Except.ok.inj located
    rcases hasDirectories_of_walk ordinary walked (isDirectory_iff.mp found) with
      ⟨rfl, directories, short⟩
    exact ⟨directories, (fits_ofNames ordinary).mpr ⟨short, shortText_of_checkPath checked⟩⟩
  · cases found

theorem hasDirectories_of_acceptExisting (ordinary : ∀ name ∈ names, Path.IsOrdinary name)
    {problem : IoError}
    (accepted : FileSystem.acceptExisting problem (disk.isDirectoryAt (.ofNames names)) = .ok ()) :
    disk.HasDirectories disk.workingDirectory names ∧ Fits (.ofNames names) := by
  rw [FileSystem.acceptExisting] at accepted
  split at accepted
  · rename_i both
    exact hasDirectories_of_isDirectoryAt ordinary both.2
  · cases accepted

theorem eq_put_of_makeDirectory (ordinary : ∀ name ∈ front ++ [last], Path.IsOrdinary name)
    (success : disk.makeDirectory (.ofNames (front ++ [last])) = .ok made) :
    disk.HasDirectories disk.workingDirectory front ∧ Fits (.ofNames (front ++ [last])) ∧
      disk.find? (disk.workingDirectory ++ (front ++ [last])) = none ∧
      made = disk.put (disk.workingDirectory ++ (front ++ [last])) .directory := by
  rcases exists_of_bind_eq_ok success with ⟨target, located, success⟩
  rcases eq_entry_of_locateTarget ordinary located with ⟨rfl, directories, fits⟩
  simp only [List.append_assoc] at success
  split at success
  · cases success
  · rename_i short
    split at success
    · cases success
    · rename_i absent
      rw [Option.not_isSome_iff_eq_none] at absent
      exact ⟨directories, fits (Nat.not_lt.mp short), absent, (Except.ok.inj success).symm⟩

theorem eq_put_of_writeFile (ordinary : ∀ name ∈ names, Path.IsOrdinary name)
    {content : ByteArray} (success : disk.writeFile (.ofNames names) content = .ok made) :
    names ≠ [] ∧ Fits (.ofNames names) ∧
      disk.find? (disk.workingDirectory ++ names) ≠ some .directory ∧
      made = disk.put (disk.workingDirectory ++ names) (.file content) := by
  rcases exists_of_bind_eq_ok success with ⟨target, located, success⟩
  cases names using List.reverseRecOn with
  | nil => cases located
  | append_singleton front last =>
      rcases eq_entry_of_locateTarget ordinary located with ⟨rfl, _, fits⟩
      simp only [List.append_assoc, endsInSlash_ofNames ordinary, Bool.false_eq_true,
        if_false] at success
      split at success
      · cases success
      · rename_i short
        split at success
        · cases success
        · rename_i notDirectory
          rw [isDirectory_iff] at notDirectory
          exact ⟨by simp, fits (Nat.not_lt.mp short), notDirectory, (Except.ok.inj success).symm⟩

/-- What a disk has become when all directories of a path were made. -/
structure Made (disk : Disk) (names : List String) (made : Disk) : Prop where
  workingDirectory : made.workingDirectory = disk.workingDirectory
  directories : made.HasDirectories disk.workingDirectory names
  elsewhere : ∀ place, (∀ front, front <+: names → front ≠ [] →
    place ≠ disk.workingDirectory ++ front) → made.find? place = disk.find? place
  noFile : disk.NoFile disk.workingDirectory names
  fits : Fits (.ofNames names)
  distinct : disk.Distinct → made.Distinct

namespace Made

theorem refl (directories : disk.HasDirectories disk.workingDirectory names)
    (fits : Fits (.ofNames names)) : disk.Made names disk :=
  ⟨rfl, directories, fun _ _ => rfl, directories.noFile, fits, id⟩

theorem find?_concat (earlier : disk.Made front made) (last : String) :
    made.find? (disk.workingDirectory ++ (front ++ [last])) =
      disk.find? (disk.workingDirectory ++ (front ++ [last])) := by
  apply earlier.elsewhere
  intro before isPrefix _ same
  have longer := isPrefix.length_le
  rw [← List.append_cancel_left same] at longer
  simp at longer

theorem noFile_concat (earlier : disk.Made front made)
    (notFile : ∀ content, made.find? (disk.workingDirectory ++ (front ++ [last])) ≠
      some (.file content)) : disk.NoFile disk.workingDirectory (front ++ [last]) := by
  intro before isPrefix content
  rcases List.prefix_concat_iff.mp isPrefix with rfl | isPrefix
  · rw [← earlier.find?_concat]
    exact notFile content
  · exact earlier.noFile before isPrefix content

/-- One more directory that is there already. -/
theorem found (earlier : disk.Made front made)
    (directory : made.find? (disk.workingDirectory ++ (front ++ [last])) = some .directory)
    (fits : Fits (.ofNames (front ++ [last]))) : disk.Made (front ++ [last]) made := by
  refine ⟨earlier.workingDirectory, earlier.directories.concat directory, ?_,
    earlier.noFile_concat (by simp [directory]), fits, earlier.distinct⟩
  intro place outside
  apply earlier.elsewhere
  intro before isPrefix
  exact outside before (isPrefix.trans (List.prefix_append _ _))

/-- One more directory that is made. -/
theorem put (earlier : disk.Made front made)
    (absent : made.find? (disk.workingDirectory ++ (front ++ [last])) = none)
    (fits : Fits (.ofNames (front ++ [last]))) :
    disk.Made (front ++ [last])
      (made.put (disk.workingDirectory ++ (front ++ [last])) .directory) := by
  refine ⟨earlier.workingDirectory, ?_, ?_, earlier.noFile_concat (by simp [absent]), fits,
    fun distinct => (earlier.distinct distinct).put ..⟩
  · intro before isPrefix
    rw [find?_put]
    split
    · rfl
    · split
      · rfl
      · rename_i different
        rcases List.prefix_concat_iff.mp isPrefix with rfl | isPrefix
        · exact absurd rfl different
        · exact earlier.directories before isPrefix
  · intro place outside
    have different : place ≠ disk.workingDirectory ++ (front ++ [last]) :=
      outside _ List.prefix_rfl (by simp)
    have unchanged := earlier.elsewhere place fun before isPrefix =>
      outside before (isPrefix.trans (List.prefix_append _ _))
    rw [find?_put, if_neg different, unchanged]
    split
    · rename_i root
      rw [root, find?, if_pos rfl]
    · rfl

end Made

theorem made_of_makeFirst (ordinary : ∀ name ∈ names, Path.IsOrdinary name)
    (directory : disk.find? disk.workingDirectory = some .directory)
    (success : disk.makeFirst (Path.ofNames names).ancestors = (.ok (), made)) :
    disk.Made names made := by
  induction names using List.reverseRecOn generalizing made with
  | nil =>
      have same : disk = made := (Prod.mk.inj success).2
      subst same
      refine .refl ?_ ((fits_ofNames ordinary).mpr ⟨by simp, Nat.zero_le _⟩)
      intro front isPrefix
      rw [List.prefix_nil.mp isPrefix]
      simpa using directory
  | append_singleton front last ih =>
      have front_ordinary := (List.forall_mem_append.mp ordinary).1
      rw [ancestors_concat ordinary, makeFirst_cons] at success
      -- The last directory is made at once, or after those above it, or it was there before.
      split at success
      · rename_i first_made first
        obtain rfl := (Prod.mk.inj success).2
        rcases eq_put_of_makeDirectory ordinary first with ⟨directories, fits, absent, rfl⟩
        exact (Made.refl directories (fits.of_concat ordinary)).put absent fits
      · split at success
        · cases success
        · rename_i above_made above
          have earlier := ih front_ordinary above
          split at success
          · rename_i second
            obtain rfl := (Prod.mk.inj success).2
            rcases eq_put_of_makeDirectory ordinary second with ⟨_, fits, absent, rfl⟩
            rw [earlier.workingDirectory] at absent ⊢
            exact earlier.put absent fits
          · rcases Prod.mk.inj success with ⟨accepted, rfl⟩
            rcases hasDirectories_of_acceptExisting ordinary accepted with ⟨directories, fits⟩
            rw [earlier.workingDirectory] at directories
            exact earlier.found (directories _ List.prefix_rfl) fits
      · rcases Prod.mk.inj success with ⟨accepted, rfl⟩
        rcases hasDirectories_of_acceptExisting ordinary accepted with ⟨directories, fits⟩
        exact .refl directories fits

/-- Where the directories in front are there, a path can be followed up to its last name. -/
theorem HasDirectories.locateTarget
    (directories : disk.HasDirectories disk.workingDirectory front)
    (plain : ArePlain (front ++ [last])) (fits : Fits (.ofNames (front ++ [last]))) :
    disk.locateTarget (.ofNames (front ++ [last])) =
      .ok (.entry (disk.workingDirectory ++ front) last) := by
  have front_ordinary := plain.of_concat.ordinary
  have front_short := (fits.of_concat plain.ordinary).short_names front_ordinary
  have here := isDirectory_iff.mpr (directories front List.prefix_rfl)
  rw [locateTarget_concat disk plain.ordinary, checkPath_concat plain fits]
  simp only [bind, Except.bind, directories.walk front_ordinary front_short, here, if_true]

theorem HasDirectories.isDirectoryAt
    (directories : disk.HasDirectories disk.workingDirectory (front ++ [last]))
    (plain : ArePlain (front ++ [last])) (fits : Fits (.ofNames (front ++ [last]))) :
    disk.isDirectoryAt (.ofNames (front ++ [last])) = true := by
  have here := isDirectory_iff.mpr (directories _ List.prefix_rfl)
  rw [Disk.isDirectoryAt, locate, names_ofNames plain.ordinary, start_ofNames disk plain.ordinary,
    endsInSlash_ofNames plain.ordinary, checkPath_concat plain fits]
  simp only [bind, Except.bind, directories.walk plain.ordinary (fits.short_names plain.ordinary),
    Bool.false_and, Bool.false_eq_true, if_false, here]

/-- Where the directories in front are there, the last one is made or is there as well. -/
theorem HasDirectories.makeDirectory
    (directories : disk.HasDirectories disk.workingDirectory front)
    (plain : ArePlain (front ++ [last])) (fits : Fits (.ofNames (front ++ [last])))
    (noFile : ∀ content, disk.find? (disk.workingDirectory ++ (front ++ [last])) ≠
      some (.file content)) :
    (∃ made, disk.makeDirectory (.ofNames (front ++ [last])) = .ok made) ∨
      disk.makeDirectory (.ofNames (front ++ [last])) = .error .alreadyExists ∧
        FileSystem.acceptExisting .alreadyExists
          (disk.isDirectoryAt (.ofNames (front ++ [last]))) = .ok () := by
  have short := Nat.not_lt.mpr (fits.short_names plain.ordinary last (by simp))
  rw [Disk.makeDirectory, directories.locateTarget plain fits]
  simp only [bind, Except.bind, short, if_false, List.append_assoc]
  cases found : disk.find? (disk.workingDirectory ++ (front ++ [last])) with
  | none => exact .inl ⟨_, rfl⟩
  | some entry =>
      cases entry with
      | file content => exact absurd found (noFile content)
      | directory =>
          have existing := (directories.concat found).isDirectoryAt plain fits
          exact .inr ⟨rfl, by rw [FileSystem.acceptExisting, if_pos ⟨rfl, existing⟩]⟩

/-- Where no file is in the way, a directory and its missing parents can be made. -/
theorem NoFile.createDirectory (plain : ArePlain names) (fits : Fits (.ofNames names))
    (noFile : disk.NoFile disk.workingDirectory names)
    (directory : disk.find? disk.workingDirectory = some .directory) :
    (disk.createDirectory (.ofNames names)).1 = .ok () := by
  rw [Disk.createDirectory]
  induction names using List.reverseRecOn with
  | nil => rfl
  | append_singleton front last ih =>
      have front_ordinary := plain.of_concat.ordinary
      have front_noFile : disk.NoFile disk.workingDirectory front := fun before isPrefix =>
        noFile before (isPrefix.trans (List.prefix_append _ _))
      have last_noFile := noFile _ List.prefix_rfl
      have front_fits := fits.of_concat plain.ordinary
      have front_short := front_fits.short_names front_ordinary
      rw [ancestors_concat plain.ordinary, makeFirst_cons]
      -- Either the directories above are there, or one is missing and all of them are made first.
      rcases walk_of_noFile front_ordinary front_short front_noFile directory with
        ⟨_, directories⟩ | ⟨missed, _⟩
      · rcases directories.makeDirectory plain fits last_noFile with
          ⟨made, first⟩ | ⟨first, accepted⟩
        · simp only [first]
        · simp only [first, accepted]
      · have first : disk.makeDirectory (.ofNames (front ++ [last])) = .error .notFound := by
          rw [Disk.makeDirectory, locateTarget_concat disk plain.ordinary,
            checkPath_concat plain fits]
          simp only [bind, Except.bind, missed]
        have above := ih plain.of_concat front_fits front_noFile
        rcases above_eq : disk.makeFirst (Path.ofNames front).ancestors with ⟨result, made⟩
        rw [above_eq] at above
        obtain rfl : result = .ok () := above
        have earlier := made_of_makeFirst front_ordinary directory above_eq
        have directories := earlier.directories
        simp only [← earlier.find?_concat last] at last_noFile
        rw [← earlier.workingDirectory] at directories last_noFile
        rcases directories.makeDirectory plain fits last_noFile with
          ⟨again, second⟩ | ⟨second, accepted⟩
        · simp only [first, second]
        · simp only [first, second, accepted]

/-- A file can be written into a directory that is there, except over a directory. -/
theorem HasDirectories.writeFile (directories : disk.HasDirectories disk.workingDirectory front)
    (plain : ArePlain (front ++ [last])) (fits : Fits (.ofNames (front ++ [last])))
    (content : ByteArray)
    (notDirectory : disk.find? (disk.workingDirectory ++ (front ++ [last])) ≠ some .directory) :
    disk.writeFile (.ofNames (front ++ [last])) content =
      .ok (disk.put (disk.workingDirectory ++ (front ++ [last])) (.file content)) := by
  have short := Nat.not_lt.mpr (fits.short_names plain.ordinary last (by simp))
  rw [ne_eq, ← isDirectory_iff, Bool.not_eq_true] at notDirectory
  rw [Disk.writeFile, directories.locateTarget plain fits]
  simp only [bind, Except.bind, endsInSlash_ofNames plain.ordinary, Bool.false_eq_true, if_false,
    short, List.append_assoc, notDirectory]

end BenchTree.Disk

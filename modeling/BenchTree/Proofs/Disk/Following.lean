import BenchTree.Proofs.Disk.Walk

/-!
# Names joined to paths of any spelling

A base may be spelled in any way: absolute or not, with dots, and with repeated or trailing slashes.
Where it leads to a directory, a name that is joined to it means the entry of this name in that
directory. So a file is written, or a directory made, under a joined path exactly when the path can
be handed to the system and no entry of the other kind has the name. What was there before is kept:
no call removes an entry or turns a file into a directory, so a path leads where it led before.
-/

namespace BenchTree

namespace Path

variable (base : Path) {name : String}

theorem isAbsolute_join (ordinary : IsOrdinary name) :
    (base.join name).isAbsolute = base.isAbsolute := by
  unfold join
  split
  · rename_i empty
    have ordinaries : ∀ other ∈ [name], IsOrdinary other := by simpa using ordinary
    simpa [ofNames, isAbsolute, empty] using isAbsolute_ofNames ordinaries
  · rename_i notEmpty
    cases letters : base.text.toList with
    | nil => exact absurd (String.toList_eq_nil_iff.mp letters) notEmpty
    | cons first rest =>
        split <;> simp [isAbsolute, letters]

/-- The paths above a joined path come behind it. -/
theorem exists_ancestors_join (ordinary : IsOrdinary name) :
    ∃ above, (base.join name).ancestors = base.join name :: above := by
  have notRoot : (base.join name).components ≠ [.root] := by
    rw [components_join base ordinary]
    intro same
    have last := congrArg List.getLast? same
    simp at last
  have notEmpty : (base.join name).components ≠ [] := by
    rw [components_join base ordinary]
    simp
  rw [ancestors]
  simp only [notRoot, notEmpty, or_self, if_false]
  exact ⟨_, rfl⟩

end Path

namespace Disk

variable {disk next : Disk} {base : Path} {name : String} {place : Location}

theorem exists_of_bind_eq_ok {First Second : Type} {first : Except IoError First}
    {next : First → Except IoError Second} {result : Second}
    (success : (first >>= next) = .ok result) :
    ∃ middle, first = .ok middle ∧ next middle = .ok result := by
  cases first with
  | error problem => cases success
  | ok middle => exact ⟨middle, rfl, success⟩

theorem eq_ok_of_update {result : Except IoError Disk}
    (updated : disk.update result = (.ok (), next)) : result = .ok next := by
  cases result with
  | error problem => cases updated
  | ok changed => exact congrArg _ (Prod.mk.inj updated).2

theorem names_join (base : Path) (ordinary : Path.IsOrdinary name) :
    Disk.names (base.join name) = Disk.names base ++ [name] := by
  have own : ([name.toList].filter (· ≠ [])).map String.ofList = [name] := by
    simp [Path.toList_ne_nil ordinary]
  have joined : ∀ before, (base.join name).text.toList = before ++ '/' :: name.toList →
      Disk.names (base.join name) =
        ((before.splitOn '/').filter (· ≠ [])).map String.ofList ++ [name] := by
    intro before text
    rw [Disk.names, Path.pieces, text, Path.splitOn_append_slash,
      Path.splitOn_of_noSlash ordinary.noSlash, List.filter_append, List.map_append, own]
  by_cases empty : base.text = ""
  · have bare : base.join name = ⟨name⟩ := by rw [Path.join, if_pos empty]
    rw [bare, Disk.names, Disk.names, Path.pieces, Path.pieces,
      Path.splitOn_of_noSlash ordinary.noSlash, own, empty]
    rfl
  · by_cases slash : base.text.toList.getLast? = some '/'
    · obtain ⟨before, text⟩ := List.getLast?_eq_some_iff.mp slash
      rw [joined before (by simp [Path.join, empty, text])]
      rw [Disk.names, Path.pieces, text, Path.splitOn_append_slash]
      simp
    · rw [joined base.text.toList (by simp [Path.join, empty, slash])]
      rfl

theorem start_join (disk : Disk) (base : Path) (ordinary : Path.IsOrdinary name) :
    disk.start (base.join name) = disk.start base := by
  rw [start, start, Path.isAbsolute_join base ordinary]

theorem endsInSlash_join (base : Path) (ordinary : Path.IsOrdinary name) :
    endsInSlash (base.join name) = false := by
  simpa [endsInSlash] using (Path.join_name_ne base ordinary).2

theorem walk_append (disk : Disk) (location : Location) (front rest : List String) :
    disk.walk location (front ++ rest) =
      disk.walk location front >>= fun middle => disk.walk middle rest := by
  induction front generalizing location with
  | nil => rfl
  | cons first others ih =>
      rw [List.cons_append, walk, walk]
      split
      · rfl
      · split
        · exact ih location
        · split
          · exact ih location.dropLast
          · split
            · rfl
            · split
              · exact ih (location ++ [first])
              · rfl

/-- A path leads to a directory. -/
structure LeadsTo (disk : Disk) (path : Path) (place : Location) : Prop where
  walked : disk.walk (disk.start path) (Disk.names path) = .ok place
  directory : disk.find? place = some .directory

theorem LeadsTo.unique {path : Path} {other : Location} (leads : disk.LeadsTo path place)
    (others : disk.LeadsTo path other) : place = other := by
  have walked := leads.walked
  rw [others.walked] at walked
  exact (Except.ok.inj walked).symm

/-- The system takes the path of a name below a base. -/
structure CanName (base : Path) (name : String) : Prop where
  checked : checkPath (base.join name) = .ok ()
  short : name.utf8ByteSize ≤ longestName

/-- A path is followed to its last name, and what is there is a directory. -/
theorem LeadsTo.join (leads : disk.LeadsTo base place) (ordinary : Path.IsOrdinary name)
    (short : name.utf8ByteSize ≤ longestName)
    (directory : disk.find? (place ++ [name]) = some .directory) :
    disk.LeadsTo (base.join name) (place ++ [name]) := by
  refine ⟨?_, directory⟩
  rw [names_join base ordinary, start_join disk base ordinary, walk_append, leads.walked]
  change disk.walk place [name] = _
  rw [walk, isDirectory_iff.mpr leads.directory, if_neg (by simp), if_neg ordinary.notDot,
    if_neg ordinary.notDots, if_neg (Nat.not_lt.mpr short), directory]
  rfl

theorem locateTarget_join (disk : Disk) (base : Path) (ordinary : Path.IsOrdinary name) :
    disk.locateTarget (base.join name) =
      (checkPath (base.join name) >>= fun _ =>
        disk.walk (disk.start base) (Disk.names base) >>= fun directory =>
          if disk.isDirectory directory then .ok (.entry directory name)
          else .error .notADirectory) := by
  have checkedLast : ∀ directory, (if !disk.isDirectory directory then .error .notADirectory
        else if name = "." ∨ name = ".." then .ok .dots
        else .ok (.entry directory name) : Except IoError Target) =
      if disk.isDirectory directory then .ok (.entry directory name)
      else .error .notADirectory := by
    intro directory
    cases disk.isDirectory directory <;> simp [ordinary.notDot, ordinary.notDots]
  rw [locateTarget, names_join base ordinary, start_join disk base ordinary, List.getLast?_concat,
    List.dropLast_concat]
  simp only [checkedLast]

theorem LeadsTo.locateTarget_join (leads : disk.LeadsTo base place)
    (ordinary : Path.IsOrdinary name) :
    disk.locateTarget (base.join name) =
      checkPath (base.join name) >>= fun _ => .ok (.entry place name) := by
  rw [Disk.locateTarget_join disk base ordinary, leads.walked]
  simp only [bind, Except.bind, isDirectory_iff.mpr leads.directory, if_true]

/-- A file is written below a base only where the base leads to a directory. -/
theorem exists_leadsTo_of_writeFile (ordinary : Path.IsOrdinary name) {content : ByteArray}
    (success : disk.writeFile (base.join name) content = .ok next) :
    ∃ place, disk.LeadsTo base place := by
  rcases exists_of_bind_eq_ok success with ⟨target, located, _⟩
  rw [locateTarget_join disk base ordinary] at located
  rcases exists_of_bind_eq_ok located with ⟨_, _, located⟩
  rcases exists_of_bind_eq_ok located with ⟨place, walked, located⟩
  split at located
  · rename_i here
    exact ⟨place, walked, isDirectory_iff.mp here⟩
  · cases located

/-- A disk gets an entry at a place, and nothing else changes. -/
structure Gains (disk : Disk) (place : Location) (entry : Entry) (next : Disk) : Prop where
  workingDirectory : next.workingDirectory = disk.workingDirectory
  here : next.find? place = some entry
  elsewhere : ∀ other, other ≠ place → next.find? other = disk.find? other

theorem gains_put (disk : Disk) {place : Location} (notRoot : place ≠ []) (entry : Entry) :
    disk.Gains place entry (disk.put place entry) := by
  refine ⟨rfl, by rw [find?_put, if_neg notRoot, if_pos rfl], ?_⟩
  intro other different
  rw [find?_put, if_neg different]
  split
  · rename_i root
    rw [root, find?, if_pos rfl]
  · rfl

theorem LeadsTo.writeFile_join (leads : disk.LeadsTo base place) (ordinary : Path.IsOrdinary name)
    (content : ByteArray) :
    disk.writeFile (base.join name) content =
      checkPath (base.join name) >>= fun _ =>
        if longestName < name.utf8ByteSize then .error .nameTooLong
        else if disk.isDirectory (place ++ [name]) then .error .isADirectory
        else .ok (disk.put (place ++ [name]) (.file content)) := by
  rw [writeFile, leads.locateTarget_join ordinary]
  cases checkPath (base.join name) with
  | error problem => rfl
  | ok _ =>
      simp only [bind, Except.bind, endsInSlash_join base ordinary, Bool.false_eq_true, if_false]

/-- When a file is written below a base, and what this changes. -/
theorem LeadsTo.writeFile_join_iff (leads : disk.LeadsTo base place)
    (ordinary : Path.IsOrdinary name) {content : ByteArray} :
    disk.writeFile (base.join name) content = .ok next ↔
      CanName base name ∧ disk.find? (place ++ [name]) ≠ some .directory ∧
        next = disk.put (place ++ [name]) (.file content) := by
  rw [leads.writeFile_join ordinary]
  constructor
  · intro success
    rcases exists_of_bind_eq_ok success with ⟨_, checked, success⟩
    split at success
    · cases success
    · rename_i short
      split at success
      · cases success
      · rename_i notDirectory
        rw [isDirectory_iff] at notDirectory
        exact ⟨⟨checked, Nat.not_lt.mp short⟩, notDirectory, (Except.ok.inj success).symm⟩
  · rintro ⟨can, notDirectory, rfl⟩
    rw [ne_eq, ← isDirectory_iff] at notDirectory
    rw [can.checked]
    simp only [bind, Except.bind, if_neg (Nat.not_lt.mpr can.short), if_neg notDirectory]

theorem LeadsTo.makeDirectory_join (leads : disk.LeadsTo base place)
    (ordinary : Path.IsOrdinary name) :
    disk.makeDirectory (base.join name) =
      checkPath (base.join name) >>= fun _ =>
        if longestName < name.utf8ByteSize then .error .nameTooLong
        else if (disk.find? (place ++ [name])).isSome then .error .alreadyExists
        else .ok (disk.put (place ++ [name]) .directory) := by
  rw [makeDirectory, leads.locateTarget_join ordinary]
  cases checkPath (base.join name) <;> rfl

/-- A name below a base can be followed where something has it. -/
theorem LeadsTo.walk_join (leads : disk.LeadsTo base place) (ordinary : Path.IsOrdinary name)
    (short : name.utf8ByteSize ≤ longestName) :
    disk.walk (disk.start (base.join name)) (Disk.names (base.join name)) =
      if (disk.find? (place ++ [name])).isSome then .ok (place ++ [name])
      else .error .notFound := by
  rw [names_join base ordinary, start_join disk base ordinary, walk_append, leads.walked]
  change disk.walk place [name] = _
  rw [walk, isDirectory_iff.mpr leads.directory, if_neg (by simp), if_neg ordinary.notDot,
    if_neg ordinary.notDots, if_neg (Nat.not_lt.mpr short)]
  cases disk.find? (place ++ [name]) <;> rfl

theorem LeadsTo.locate_join (leads : disk.LeadsTo base place) (ordinary : Path.IsOrdinary name)
    (can : CanName base name) :
    disk.locate (base.join name) =
      if (disk.find? (place ++ [name])).isSome then .ok (place ++ [name])
      else .error .notFound := by
  rw [locate, can.checked, endsInSlash_join base ordinary]
  simp only [bind, Except.bind, leads.walk_join ordinary can.short, Bool.false_and,
    Bool.false_eq_true, if_false]
  cases disk.find? (place ++ [name]) <;> rfl

theorem LeadsTo.isDirectoryAt_join (leads : disk.LeadsTo base place)
    (ordinary : Path.IsOrdinary name) (can : CanName base name) :
    disk.isDirectoryAt (base.join name) = disk.isDirectory (place ++ [name]) := by
  rw [isDirectoryAt, leads.locate_join ordinary can]
  cases found : disk.find? (place ++ [name]) <;> simp [isDirectory, found]

theorem of_checkPath_join_eq_error (ordinary : Path.IsOrdinary name) {problem : IoError}
    (refused : checkPath (base.join name) = .error problem) :
    problem = .nulInPath ∨ problem = .nameTooLong := by
  rw [checkPath, if_neg (Path.join_name_ne base ordinary).1] at refused
  split at refused
  · exact .inl (Except.error.inj refused).symm
  · split at refused
    · exact .inr (Except.error.inj refused).symm
    · cases refused

/-- Where the directory above is there, no directory further up is looked at. -/
theorem createDirectory_of_makeDirectory_eq_error (ordinary : Path.IsOrdinary name)
    {problem : IoError} (failed : disk.makeDirectory (base.join name) = .error problem)
    (other : problem ≠ .notFound) :
    disk.createDirectory (base.join name) =
      (FileSystem.acceptExisting problem (disk.isDirectoryAt (base.join name)), disk) := by
  rcases base.exists_ancestors_join ordinary with ⟨above, ancestors_eq⟩
  rw [createDirectory, ancestors_eq, makeFirst_cons, failed]
  cases problem <;> first | rfl | exact absurd rfl other

theorem createDirectory_of_makeDirectory_eq_ok (ordinary : Path.IsOrdinary name)
    (success : disk.makeDirectory (base.join name) = .ok next) :
    disk.createDirectory (base.join name) = (.ok (), next) := by
  rcases base.exists_ancestors_join ordinary with ⟨above, ancestors_eq⟩
  rw [createDirectory, ancestors_eq, makeFirst_cons, success]

/-- What becomes of making a directory below a base. -/
theorem LeadsTo.createDirectory_join (leads : disk.LeadsTo base place)
    (ordinary : Path.IsOrdinary name) :
    disk.createDirectory (base.join name) = disk.update (checkPath (base.join name) >>= fun _ =>
      if longestName < name.utf8ByteSize then .error .nameTooLong
      else match disk.find? (place ++ [name]) with
        | none => .ok (disk.put (place ++ [name]) .directory)
        | some .directory => .ok disk
        | some (.file _) => .error .alreadyExists) := by
  have making := leads.makeDirectory_join ordinary
  cases checked : checkPath (base.join name) with
  | error problem =>
      rw [checked] at making
      rcases of_checkPath_join_eq_error ordinary checked with rfl | rfl <;>
        exact createDirectory_of_makeDirectory_eq_error ordinary making (by simp)
  | ok _ =>
      rw [checked] at making
      simp only [bind, Except.bind] at making ⊢
      split at making
      · rename_i long
        rw [if_pos long]
        exact createDirectory_of_makeDirectory_eq_error ordinary making (by simp)
      · rename_i short
        rw [if_neg short]
        have existing := leads.isDirectoryAt_join ordinary ⟨checked, Nat.not_lt.mp short⟩
        cases found : disk.find? (place ++ [name]) with
        | none =>
            rw [found] at making
            exact createDirectory_of_makeDirectory_eq_ok ordinary making
        | some entry =>
            rw [found] at making
            rw [createDirectory_of_makeDirectory_eq_error ordinary making (by simp),
              FileSystem.acceptExisting, existing, isDirectory, found]
            cases entry <;> rfl

/-- When a directory is made below a base, and what this changes. -/
theorem LeadsTo.createDirectory_join_iff (leads : disk.LeadsTo base place)
    (ordinary : Path.IsOrdinary name) :
    disk.createDirectory (base.join name) = (.ok (), next) ↔
      CanName base name ∧
        (disk.find? (place ++ [name]) = none ∧ next = disk.put (place ++ [name]) .directory ∨
          disk.find? (place ++ [name]) = some .directory ∧ next = disk) := by
  rw [leads.createDirectory_join ordinary]
  constructor
  · intro success
    rcases exists_of_bind_eq_ok (eq_ok_of_update success) with ⟨_, checked, success⟩
    split at success
    · cases success
    · rename_i short
      refine ⟨⟨checked, Nat.not_lt.mp short⟩, ?_⟩
      split at success
      · rename_i absent
        exact .inl ⟨absent, (Except.ok.inj success).symm⟩
      · rename_i present
        exact .inr ⟨present, (Except.ok.inj success).symm⟩
      · cases success
  · rintro ⟨can, ⟨absent, rfl⟩ | ⟨present, rfl⟩⟩
    · simp only [can.checked, bind, Except.bind, if_neg (Nat.not_lt.mpr can.short), absent, update]
    · simp only [can.checked, bind, Except.bind, if_neg (Nat.not_lt.mpr can.short), present, update]

end Disk

end BenchTree

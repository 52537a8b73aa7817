import BenchTree.Disk
import BenchTree.Proofs.Path.Names

/-!
# Following paths on a disk

A path that is spelled by ordinary names is followed from the working directory, name by name. It
can be followed as far as there are directories. When every prefix of the names leads to a
directory the walk arrives; when some prefix leads nowhere, and no file stands in the way, something
is reported as missing. Above such a path lie the paths of its shorter prefixes.
-/

namespace BenchTree.Disk

variable {disk : Disk} {names : List String}

theorem names_ofNames (ordinary : ∀ name ∈ names, Path.IsOrdinary name) :
    Disk.names (.ofNames names) = names := by
  cases names with
  | nil => rfl
  | cons first rest =>
      have kept : ∀ piece ∈ (first :: rest).map String.toList, decide (piece ≠ []) = true := by
        intro piece piece_mem
        rcases List.mem_map.mp piece_mem with ⟨name, name_mem, rfl⟩
        simpa using Path.toList_ne_nil (ordinary name name_mem)
      rw [Disk.names, Path.pieces_ofNames ordinary (List.cons_ne_nil _ _),
        List.filter_eq_self.mpr kept, List.map_map]
      simp [Function.comp_def]

theorem start_ofNames (disk : Disk) (ordinary : ∀ name ∈ names, Path.IsOrdinary name) :
    disk.start (.ofNames names) = disk.workingDirectory := by
  rw [start, Path.isAbsolute_ofNames ordinary]
  rfl

theorem endsInSlash_ofNames (ordinary : ∀ name ∈ names, Path.IsOrdinary name) :
    endsInSlash (.ofNames names) = false := by
  cases names using List.reverseRecOn with
  | nil => rfl
  | append_singleton front last =>
      have front_ordinary := (List.forall_mem_append.mp ordinary).1
      have noSlash := (Path.join_name_ne (.ofNames front) (ordinary last (by simp))).2
      rw [Path.join_ofNames front_ordinary] at noSlash
      simpa [endsInSlash] using noSlash

theorem isDirectory_iff {location : Location} :
    disk.isDirectory location = true ↔ disk.find? location = some .directory := by
  simp [isDirectory]

/-- All prefixes of the names lead from a location to directories. -/
def HasDirectories (disk : Disk) (location : Location) (names : List String) : Prop :=
  ∀ front, front <+: names → disk.find? (location ++ front) = some .directory

/-- No prefix of the names leads from a location to a file. -/
def NoFile (disk : Disk) (location : Location) (names : List String) : Prop :=
  ∀ front, front <+: names → ∀ content, disk.find? (location ++ front) ≠ some (.file content)

variable {location target : Location}

theorem HasDirectories.noFile (directories : disk.HasDirectories location names) :
    disk.NoFile location names := by
  intro front isPrefix content found
  rw [directories front isPrefix] at found
  cases found

theorem HasDirectories.concat {front : List String} {last : String}
    (directories : disk.HasDirectories location front)
    (directory : disk.find? (location ++ (front ++ [last])) = some .directory) :
    disk.HasDirectories location (front ++ [last]) := by
  intro before isPrefix
  rcases List.prefix_concat_iff.mp isPrefix with rfl | isPrefix
  · exact directory
  · exact directories before isPrefix

theorem HasDirectories.cons {first : String} {others : List String}
    (directory : disk.find? location = some .directory)
    (directories : disk.HasDirectories (location ++ [first]) others) :
    disk.HasDirectories location (first :: others) := by
  intro front isPrefix
  cases front with
  | nil => simpa using directory
  | cons other rest =>
      rcases List.cons_prefix_cons.mp isPrefix with ⟨rfl, rest_prefix⟩
      simpa using directories rest rest_prefix

theorem NoFile.tail {first : String} {others : List String}
    (noFile : disk.NoFile location (first :: others)) :
    disk.NoFile (location ++ [first]) others := by
  intro front isPrefix content
  have unlike := noFile (first :: front) (List.cons_prefix_cons.mpr ⟨rfl, isPrefix⟩) content
  simpa using unlike

/-- A walk that arrives at a directory came through directories, by names that are not too long. -/
theorem hasDirectories_of_walk (ordinary : ∀ name ∈ names, Path.IsOrdinary name)
    (walked : disk.walk location names = .ok target)
    (directory : disk.find? target = some .directory) :
    target = location ++ names ∧ disk.HasDirectories location names ∧
      ∀ name ∈ names, name.utf8ByteSize ≤ longestName := by
  induction names generalizing location with
  | nil =>
      rw [walk] at walked
      obtain rfl := Except.ok.inj walked
      refine ⟨by simp, ?_, by simp⟩
      intro front isPrefix
      rw [List.prefix_nil.mp isPrefix]
      simpa using directory
  | cons first others ih =>
      have first_ordinary := ordinary first List.mem_cons_self
      rw [walk] at walked
      split at walked
      · cases walked
      · rename_i here
        rw [Bool.not_eq_true', Bool.not_eq_false, isDirectory_iff] at here
        rw [if_neg first_ordinary.notDot, if_neg first_ordinary.notDots] at walked
        split at walked
        · cases walked
        · rename_i short
          split at walked
          · rcases ih (fun name name_mem => ordinary name (.tail _ name_mem)) walked with
              ⟨rfl, directories, others_short⟩
            refine ⟨by simp, .cons here directories, ?_⟩
            simpa using ⟨Nat.not_lt.mp short, others_short⟩
          · cases walked

/-- Where no file stands in the way, a walk arrives or something is missing. -/
theorem walk_of_noFile (ordinary : ∀ name ∈ names, Path.IsOrdinary name)
    (short : ∀ name ∈ names, name.utf8ByteSize ≤ longestName)
    (noFile : disk.NoFile location names) (here : disk.find? location = some .directory) :
    (disk.walk location names = .ok (location ++ names) ∧ disk.HasDirectories location names) ∨
      (disk.walk location names = .error .notFound ∧
        ∃ front, front <+: names ∧ disk.find? (location ++ front) = none) := by
  induction names generalizing location with
  | nil =>
      left
      refine ⟨by simp [walk], ?_⟩
      intro front isPrefix
      rw [List.prefix_nil.mp isPrefix]
      simpa using here
  | cons first others ih =>
      have first_ordinary := ordinary first List.mem_cons_self
      have first_short := Nat.not_lt.mpr (short first List.mem_cons_self)
      cases found : disk.find? (location ++ [first]) with
      | none =>
          refine .inr ⟨?_, [first], by simp, found⟩
          rw [walk, isDirectory_iff.mpr here, if_neg (by simp), if_neg first_ordinary.notDot,
            if_neg first_ordinary.notDots, if_neg first_short, found]
      | some entry =>
          have step : disk.walk location (first :: others) =
              disk.walk (location ++ [first]) others := by
            rw [walk, isDirectory_iff.mpr here, if_neg (by simp), if_neg first_ordinary.notDot,
              if_neg first_ordinary.notDots, if_neg first_short, found]
          rw [step]
          cases entry with
          | file content => exact absurd found (noFile [first] (by simp) content)
          | directory =>
              rcases ih (fun name name_mem => ordinary name (.tail _ name_mem))
                (fun name name_mem => short name (.tail _ name_mem)) noFile.tail found with
                ⟨walked, directories⟩ | ⟨missed, front, isPrefix, missing⟩
              · exact .inl ⟨by simpa using walked, .cons here directories⟩
              · refine .inr ⟨missed, first :: front, ?_, by simpa using missing⟩
                exact List.cons_prefix_cons.mpr ⟨rfl, isPrefix⟩

/-- A walk through directories arrives. -/
theorem HasDirectories.walk (ordinary : ∀ name ∈ names, Path.IsOrdinary name)
    (short : ∀ name ∈ names, name.utf8ByteSize ≤ longestName)
    (directories : disk.HasDirectories location names) :
    disk.walk location names = .ok (location ++ names) := by
  have here : disk.find? location = some .directory := by
    simpa using directories [] List.nil_prefix
  rcases walk_of_noFile ordinary short directories.noFile here with
    ⟨walked, _⟩ | ⟨_, front, isPrefix, missing⟩
  · exact walked
  · rw [directories front isPrefix] at missing
    cases missing

theorem take_map_name_ne (names : List String) (count : Nat) :
    (names.map Path.Component.name).take count ≠ [.root] := by
  intro same
  have root_mem : .root ∈ (names.map Path.Component.name).take count := by
    rw [same]
    exact List.mem_cons_self
  simpa using List.mem_of_mem_take root_mem

/-- A path and those above it are spelled by the prefixes of its names, longest first. -/
theorem ancestors_ofNames (ordinary : ∀ name ∈ names, Path.IsOrdinary name) :
    (Path.ofNames names).ancestors = (List.range names.length).map fun distance =>
      .ofNames (names.take (names.length - distance)) := by
  cases names using List.reverseRecOn with
  | nil => rfl
  | append_singleton front last =>
      have components := Path.components_ofNames ordinary
      have notEmpty : (front ++ [last]).map Path.Component.name ≠ [] := by simp
      have spelled : ∀ count, Path.ofComponents
          (((front ++ [last]).map Path.Component.name).take count) =
            .ofNames ((front ++ [last]).take count) := by
        intro count
        rw [← List.map_take, Path.ofComponents_map_name]
      have kept : ∀ above ∈ (List.range front.length).map fun distance =>
            ((front ++ [last]).map Path.Component.name).take (front.length - distance),
          decide (above ≠ [Path.Component.root]) = true := by
        intro above above_mem
        rcases List.mem_map.mp above_mem with ⟨distance, _, rfl⟩
        exact decide_eq_true (take_map_name_ne _ _)
      have notOnlyRoot : (front ++ [last]).map Path.Component.name ≠ [Path.Component.root] := by
        have whole := take_map_name_ne (front ++ [last]) (front.length + 1)
        rwa [List.take_of_length_le (by simp)] at whole
      have length : ((front ++ [last]).map Path.Component.name).length - 1 = front.length := by
        simp
      rw [Path.ancestors, components]
      simp only [length, notEmpty, notOnlyRoot, or_self, if_false, List.filter_eq_self.mpr kept,
        List.map_map]
      rw [List.length_append, List.length_singleton, List.range_succ_eq_map, List.map_cons,
        List.map_map, Nat.sub_zero, List.take_of_length_le (by simp)]
      congr 1
      apply List.map_congr_left
      intro distance _
      simp only [Function.comp_apply, spelled, Nat.succ_eq_add_one, Nat.add_sub_add_right]

/-- The paths above a path of names are those of the shorter prefixes. -/
theorem ancestors_concat {front : List String} {last : String}
    (ordinary : ∀ name ∈ front ++ [last], Path.IsOrdinary name) :
    (Path.ofNames (front ++ [last])).ancestors =
      .ofNames (front ++ [last]) :: (Path.ofNames front).ancestors := by
  have front_ordinary := (List.forall_mem_append.mp ordinary).1
  rw [ancestors_ofNames ordinary, ancestors_ofNames front_ordinary, List.length_append,
    List.length_singleton, List.range_succ_eq_map, List.map_cons, List.map_map]
  congr 1
  · rw [Nat.sub_zero, List.take_of_length_le (by simp)]
  · apply List.map_congr_left
    intro distance _
    have shorter : front.length - distance ≤ front.length := Nat.sub_le ..
    simp only [Function.comp_apply, Nat.succ_eq_add_one, Nat.add_sub_add_right,
      List.take_append_of_le_length shorter]

end BenchTree.Disk

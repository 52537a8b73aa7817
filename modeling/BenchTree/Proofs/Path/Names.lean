import BenchTree.Path.Lemmas
import Mathlib

/-!
# Paths made of names

A relative path can be spelled by its names, with a slash between each two of them. Such a spelling
is read back as it was meant, and joining a name to it spells one name more. What lies below a base
by ordinary names is found, relative to the base, under the spelling of these names; joining that
spelling to the base leads back. So removing a base and joining it again are inverse, however the
base itself is spelled.
-/

namespace BenchTree.Path

/-- Whether a name is ordinary is found out by its letters. -/
instance (name : String) : Decidable (IsOrdinary name) :=
  decidable_of_iff ('/' ∉ name.toList ∧ name ≠ "" ∧ name ≠ "." ∧ name ≠ "..")
    ⟨fun ⟨noSlash, notEmpty, notDot, notDots⟩ => ⟨noSlash, notEmpty, notDot, notDots⟩,
      fun ordinary => ⟨ordinary.noSlash, ordinary.notEmpty, ordinary.notDot, ordinary.notDots⟩⟩

/-- The relative path that leads through the given names. -/
def ofNames (names : List String) : Path := ⟨"/".intercalate names⟩

theorem ofComponents_map_name (names : List String) :
    ofComponents (names.map .name) = ofNames names := by
  have texts : (names.map Component.name).map Component.text = names := by
    simp [Component.text, Function.comp_def]
  cases names with
  | nil => rfl
  | cons first rest =>
      have spelled : ofComponents ((first :: rest).map Component.name) =
          ⟨"/".intercalate (((first :: rest).map Component.name).map Component.text)⟩ := rfl
      rw [spelled, texts]
      rfl

section

variable {names : List String}

theorem pieces_ofNames (ordinary : ∀ name ∈ names, IsOrdinary name) (nonempty : names ≠ []) :
    (ofNames names).pieces = names.map String.toList := by
  rw [pieces, ofNames, String.toList_intercalate]
  apply List.splitOn_intercalate
  · intro piece piece_mem
    rcases List.mem_map.mp piece_mem with ⟨name, name_mem, rfl⟩
    exact (ordinary name name_mem).noSlash
  · simpa using nonempty

theorem toList_ne_nil {name : String} (ordinary : IsOrdinary name) : name.toList ≠ [] :=
  fun empty => ordinary.notEmpty (String.toList_eq_nil_iff.mp empty)

theorem isAbsolute_ofNames (ordinary : ∀ name ∈ names, IsOrdinary name) :
    (ofNames names).isAbsolute = false := by
  cases names with
  | nil => rfl
  | cons first rest =>
      have first_ordinary := ordinary first List.mem_cons_self
      cases letters : first.toList with
      | nil => exact absurd letters (toList_ne_nil first_ordinary)
      | cons letter others =>
          have letter_ne : letter ≠ '/' := by
            rintro rfl
            exact first_ordinary.noSlash (by simp [letters])
          cases rest with
          | nil => simpa [isAbsolute, ofNames, letters] using letter_ne
          | cons second later =>
              simpa [isAbsolute, ofNames, List.intercalate_cons_cons, letters] using letter_ne

/-- A path spelled by names is read as these names. -/
theorem components_ofNames (ordinary : ∀ name ∈ names, IsOrdinary name) :
    (ofNames names).components = names.map .name := by
  cases names with
  | nil => rfl
  | cons first rest =>
      have first_ordinary := ordinary first List.mem_cons_self
      have read : ((first :: rest).map String.toList).filterMap Component.ofPiece? =
          (first :: rest).map .name := by
        rw [List.filterMap_map, ← List.filterMap_eq_map]
        apply List.filterMap_congr
        intro name name_mem
        exact Component.ofPiece?_toList (ordinary name name_mem)
      have notDot : first.toList ≠ ['.'] := fun same =>
        first_ordinary.notDot (String.toList_injective same)
      rw [components, leading, isAbsolute_ofNames ordinary,
        pieces_ofNames ordinary (List.cons_ne_nil _ _), read]
      simp [notDot]

end

theorem join_name_ne (base : Path) {name : String} (ordinary : IsOrdinary name) :
    (base.join name).text ≠ "" ∧ (base.join name).text.toList.getLast? ≠ some '/' := by
  have last : name.toList.getLast? ≠ some '/' := fun slash =>
    ordinary.noSlash (List.mem_of_getLast? slash)
  have last_append : ∀ before : List Char,
      (before ++ name.toList).getLast? = name.toList.getLast? := by
    intro before
    rw [List.getLast?_append_of_ne_nil _ (toList_ne_nil ordinary)]
  unfold join
  split
  · exact ⟨ordinary.notEmpty, last⟩
  · split
    · simp [last_append, last, ordinary.notEmpty]
    · rw [String.toList_append, last_append]
      simp [last, ordinary.notEmpty]

/-- Names may be joined one by one or with the slash between them. -/
theorem join_join (base : Path) {first : String} (ordinary : IsOrdinary first) (rest : String) :
    (base.join first).join rest = base.join (first ++ "/" ++ rest) := by
  rcases join_name_ne base ordinary with ⟨notEmpty, noSlash⟩
  rw [join, if_neg notEmpty, if_neg noSlash]
  unfold join
  split
  · rfl
  · split
    · simp [String.append_assoc]
    · simp [String.append_assoc]

theorem intercalate_concat (names : List String) (last : String) (nonempty : names ≠ []) :
    "/".intercalate (names ++ [last]) = "/".intercalate names ++ "/" ++ last := by
  induction names with
  | nil => exact absurd rfl nonempty
  | cons first rest ih =>
      cases rest with
      | nil => simp [String.intercalate_cons_cons]
      | cons second later =>
          rw [List.cons_append, List.cons_append, String.intercalate_cons_cons,
            String.intercalate_cons_cons, ← List.cons_append, ih (List.cons_ne_nil _ _)]
          simp only [String.append_assoc]

/-- Joining a name spells one name more. -/
theorem join_ofNames {names : List String} (ordinary : ∀ name ∈ names, IsOrdinary name)
    (name : String) : (ofNames names).join name = ofNames (names ++ [name]) := by
  induction names using List.reverseRecOn generalizing name with
  | nil => simp [ofNames, join]
  | append_singleton earlier last ih =>
      have spelled := ih (fun other other_mem => ordinary other (by simp [other_mem])) last
      rcases join_name_ne (ofNames earlier) (ordinary last (by simp)) with
        ⟨notEmpty, noSlash⟩
      rw [spelled] at notEmpty noSlash
      rw [join, if_neg notEmpty, if_neg noSlash]
      simp only [ofNames]
      rw [intercalate_concat (earlier ++ [last]) name (by simp)]

/-- What lies below a base by ordinary names is found under the spelling of these names. -/
theorem relativeTo?_of_components {path base : Path} {names : List String}
    (below : path.components = base.components ++ names.map .name) :
    path.relativeTo? base = some (ofNames names) := by
  rw [relativeTo?, below, if_pos (by simp), List.drop_left, ofComponents_map_name]

end BenchTree.Path

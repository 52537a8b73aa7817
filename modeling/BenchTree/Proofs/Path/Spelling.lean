import BenchTree.Path.Lemmas
import BenchTree.Proofs.Store.Snapshot

/-!
# Spellings and the order of places

Slashes may be repeated, a dot may stand between two slashes, and a slash may stand at the end: none
of that leads to another place. Places are ordered component by component, so a place lies before
all that is below it. Of two components that differ, the root is the first, then a leading dot, then
two dots, then names in the order of their texts.
-/

namespace BenchTree.Path

namespace Component

/-- A component lies before another one: it is of an earlier kind, or both are names. -/
inductive Before : Component → Component → Prop where
  | kind {left right : Component} (earlier : left.rank < right.rank) : Before left right
  | name {left right : String} (earlier : left < right) : Before (.name left) (.name right)

theorem compare_eq (left right : Component) :
    compare left right =
      (compare left.rank right.rank).then (compare left.text right.text) := rfl

theorem compare_eq_lt_iff {left right : Component} :
    compare left right = .lt ↔ left.Before right := by
  have texts : ∀ first second : String, compare first second = .lt ↔ first < second :=
    fun _ _ => compareOfLessAndEq_eq_lt
  rw [compare_eq, Ordering.then_eq_lt, Nat.compare_eq_lt, texts]
  constructor
  · rintro (earlier | ⟨ranks, earlier⟩)
    · exact .kind earlier
    · have same_kind : left.rank = right.rank := Std.LawfulEqCmp.eq_of_compare ranks
      cases left <;> cases right <;> simp only [rank, text, Nat.reduceEqDiff,
        OfNat.ofNat_ne_zero, OfNat.zero_ne_ofNat, lt_self_iff_false] at same_kind earlier
      exact .name earlier
  · rintro (earlier | earlier)
    · exact Or.inl earlier
    · exact Or.inr ⟨Std.ReflCmp.compare_self, earlier⟩

end Component

/-- Places are ordered as lists of components. -/
theorem before_iff_lex {left right : Path} :
    left.Before right ↔ List.Lex Component.Before left.components right.components := by
  rw [Before]
  generalize left.components = leftComponents
  generalize right.components = rightComponents
  induction leftComponents generalizing rightComponents with
  | nil =>
      cases rightComponents with
      | nil => exact ⟨fun before => (by cases before), fun lex => (by cases lex)⟩
      | cons right rest => exact ⟨fun _ => .nil, fun _ => rfl⟩
  | cons left leftRest ih =>
      cases rightComponents with
      | nil => exact ⟨fun before => (by cases before), fun lex => (by cases lex)⟩
      | cons right rightRest =>
          have unfolded : compare (left :: leftRest) (right :: rightRest) =
              (compare left right).then (compare leftRest rightRest) :=
            List.compareLex_cons_cons
          rw [unfolded, Ordering.then_eq_lt, Component.compare_eq_lt_iff, ih,
            Std.LawfulEqCmp.compare_eq_iff_eq]
          constructor
          · rintro (earlier | ⟨rfl, later⟩)
            · exact .rel earlier
            · exact .cons later
          · intro lex
            cases lex with
            | rel earlier => exact Or.inl earlier
            | cons later => exact Or.inr ⟨rfl, later⟩

/-- Between slashes, nothing and a single dot stand for no component. -/
def IsIdle (piece : String) : Prop := piece = "" ∨ piece = "."

theorem IsIdle.splitOn_eq {piece : String} (idle : IsIdle piece) :
    piece.toList.splitOn '/' = [piece.toList] := by
  rcases idle with rfl | rfl <;> rfl

theorem IsIdle.ofPiece?_eq {piece : String} (idle : IsIdle piece) :
    Component.ofPiece? piece.toList = none := by
  rcases idle with rfl | rfl <;> rfl

/-- What is added behind a text does not count when it makes no component. -/
theorem same_of_pieces {left right : Path} (absolute : left.isAbsolute = right.isAbsolute)
    (first : left.pieces.head? = right.pieces.head?)
    (names : left.pieces.filterMap Component.ofPiece? =
      right.pieces.filterMap Component.ofPiece?) : left.Same right := by
  rw [Same, components, components, leading, leading, absolute, first, names]

section

variable (above below : String) {piece : String}

theorem pieces_append_slash :
    pieces ⟨above ++ "/" ++ below⟩ = pieces ⟨above⟩ ++ pieces ⟨below⟩ := by
  simp [pieces, splitOn_append_slash]

theorem isAbsolute_append_slash :
    isAbsolute ⟨above ++ "/" ++ below⟩ = (isAbsolute ⟨above⟩ || decide (above = "")) := by
  cases text : above.toList with
  | nil => simp [isAbsolute, String.toList_eq_nil_iff.mp text]
  | cons first rest =>
      have nonempty : above ≠ "" := by
        rintro rfl
        cases text
      simp [isAbsolute, text, nonempty]

/-- An idle piece between two slashes does not count. -/
theorem same_idle_between (idle : IsIdle piece) :
    Same ⟨above ++ "/" ++ piece ++ "/" ++ below⟩ ⟨above ++ "/" ++ below⟩ := by
  have idle_pieces : pieces ⟨piece⟩ = [piece.toList] := idle.splitOn_eq
  apply same_of_pieces
  · simp [isAbsolute_append_slash]
  · simp only [pieces_append_slash, List.append_assoc]
    rw [List.head?_append_of_ne_nil _ (pieces_ne_nil _),
      List.head?_append_of_ne_nil _ (pieces_ne_nil _)]
  · simp only [pieces_append_slash, idle_pieces, List.filterMap_append, List.filterMap_cons,
      idle.ofPiece?_eq, List.filterMap_nil, List.append_nil]

/-- An idle piece behind the last slash does not count, and neither does that slash. -/
theorem same_idle_behind (nonempty : above ≠ "") (idle : IsIdle piece) :
    Same ⟨above ++ "/" ++ piece⟩ ⟨above⟩ := by
  have idle_pieces : pieces ⟨piece⟩ = [piece.toList] := idle.splitOn_eq
  apply same_of_pieces
  · simp [isAbsolute_append_slash, nonempty]
  · rw [pieces_append_slash, List.head?_append_of_ne_nil _ (pieces_ne_nil _)]
  · simp only [pieces_append_slash, idle_pieces, List.filterMap_append, List.filterMap_cons,
      idle.ofPiece?_eq, List.filterMap_nil, List.append_nil]

end

end BenchTree.Path

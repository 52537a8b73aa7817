import BenchTree.Path

/-!
# Joining and the components of paths

Joining adds exactly one component, whatever the spelling of the base: the joined path has the
components of the base and behind them the name.
-/

namespace BenchTree.Path

/-- A name that is a component of its own: no slash in it, and neither empty nor dots. -/
structure IsOrdinary (name : String) : Prop where
  noSlash : '/' ∉ name.toList
  notEmpty : name ≠ ""
  notDot : name ≠ "."
  notDots : name ≠ ".."

namespace Component

theorem ofPiece?_toList {name : String} (ordinary : IsOrdinary name) :
    ofPiece? name.toList = some (.name name) := by
  have restored : String.ofList name.toList = name := String.ofList_toList
  unfold ofPiece?
  split
  · rename_i same
    exact absurd (by rw [← restored, same]) ordinary.notEmpty
  · rename_i same
    exact absurd (by rw [← restored, same]) ordinary.notDot
  · rename_i same
    exact absurd (by rw [← restored, same]) ordinary.notDots
  · rw [restored]

end Component

/-- Pieces before a slash are those of the text in front, and the pieces behind follow. -/
theorem splitOn_append_slash (before after : List Char) :
    (before ++ '/' :: after).splitOn '/' = before.splitOn '/' ++ after.splitOn '/' := by
  simp [List.splitOn, List.splitOnP_append_cons]

theorem splitOn_of_noSlash {piece : List Char} (noSlash : '/' ∉ piece) :
    piece.splitOn '/' = [piece] := by
  apply List.splitOnP_eq_singleton
  intro character member
  simp only [beq_eq_false_iff_ne, ne_eq]
  intro slash
  exact noSlash (slash ▸ member)

/-- There is always a piece, if only an empty one. -/
theorem pieces_ne_nil (path : Path) : path.pieces ≠ [] := List.splitOnP_ne_nil _ _

/--
A path whose text goes on behind that of a base with a slash and a name has one more component.
-/
theorem components_of_append_slash {base joined : Path} {name : String}
    (ordinary : IsOrdinary name) (before : List Char)
    (text : joined.text.toList = before ++ '/' :: name.toList)
    (absolute : joined.isAbsolute = base.isAbsolute)
    (pieces : base.pieces = before.splitOn '/' ∨ base.pieces = before.splitOn '/' ++ [[]]) :
    joined.components = base.components ++ [.name name] := by
  have joinedPieces : joined.pieces = before.splitOn '/' ++ [name.toList] := by
    rw [Path.pieces, text, splitOn_append_slash, splitOn_of_noSlash ordinary.noSlash]
  have nonempty : before.splitOn '/' ≠ [] := List.splitOnP_ne_nil _ _
  have head : joined.pieces.head? = base.pieces.head? := by
    rcases pieces with pieces | pieces
    · simp [joinedPieces, pieces, List.head?_eq_some_head nonempty]
    · simp [joinedPieces, pieces, List.head?_eq_some_head nonempty]
  have names : base.pieces.filterMap Component.ofPiece? =
      (before.splitOn '/').filterMap Component.ofPiece? := by
    rcases pieces with pieces | pieces
    · rw [pieces]
    · simp [pieces, Component.ofPiece?]
  have leads : joined.leading = base.leading := by simp only [leading, absolute, head]
  simp [components, leads, names, joinedPieces, Component.ofPiece?_toList ordinary]

/-- An ordinary name on its own is a path of one component. -/
theorem components_name {name : String} (ordinary : IsOrdinary name) :
    components ⟨name⟩ = [.name name] := by
  have pieces : pieces ⟨name⟩ = [name.toList] := splitOn_of_noSlash ordinary.noSlash
  have relative : isAbsolute ⟨name⟩ = false := by
    have noSlash := ordinary.noSlash
    cases text : name.toList with
    | nil => simp [isAbsolute, text]
    | cons first rest =>
      have first_ne : first ≠ '/' := fun same => noSlash (text ▸ same ▸ List.mem_cons_self)
      simpa [isAbsolute, text] using first_ne
  have notDot : name.toList ≠ ['.'] := fun same =>
    ordinary.notDot (String.toList_injective same)
  simp [components, leading, relative, pieces, notDot, Component.ofPiece?_toList ordinary]

/-- Joining adds the name as a component, whatever the spelling of the base. -/
theorem components_join (base : Path) {name : String} (ordinary : IsOrdinary name) :
    (base.join name).components = base.components ++ [.name name] := by
  unfold join
  split
  · rename_i empty
    have base : components base = [] := by
      obtain ⟨text⟩ := base
      subst empty
      rfl
    rw [components_name ordinary, base, List.nil_append]
  · split
    · rename_i _ slash
      obtain ⟨before, text⟩ := List.getLast?_eq_some_iff.1 slash
      apply components_of_append_slash ordinary before
      · simp [text]
      · cases before <;> simp [isAbsolute, text]
      · right
        rw [pieces, text, splitOn_append_slash]
        rfl
    · rename_i notEmpty _
      apply components_of_append_slash ordinary base.text.toList
      · simp
      · cases text : base.text.toList with
        | nil => exact absurd (String.toList_eq_nil_iff.1 text) notEmpty
        | cons first rest => simp [isAbsolute, text]
      · left
        rfl

end BenchTree.Path

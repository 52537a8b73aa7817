import Std.Data.TreeMap

/-!
# Paths

A path keeps the text it was given. Two paths are the same place when their components agree:
repeated and trailing slashes do not count, and neither does a dot, except a leading one of a
relative path. Two dots are a component of their own. Paths are ordered by their components; the
order is lawful, so a map keyed by components treats all spellings of a place as one key.
-/

namespace BenchTree

/-- A path in the text in which it was given. -/
structure Path where
  text : String
  deriving DecidableEq, Repr

namespace Path

/-- A step of a path: the root, a leading dot, two dots, or an ordinary name. -/
inductive Component where
  | root
  | current
  | parent
  | name (text : String)
  deriving DecidableEq, Repr

namespace Component

/-- The place of a component's kind in the order. -/
def rank : Component → Nat
  | .root => 0
  | .current => 1
  | .parent => 2
  | .name _ => 3

/-- The text that spells a component. -/
def text : Component → String
  | .root => "/"
  | .current => "."
  | .parent => ".."
  | .name text => text

/-- Components are ordered by kind, ordinary names by their text. -/
instance : Ord Component := ⟨compareLex (compareOn rank) (compareOn text)⟩

/-- The order of components is transitive, since it compares ranks, then texts. -/
instance : Std.TransOrd Component :=
  inferInstanceAs (Std.TransCmp (compareLex (compareOn rank) (compareOn text)))

/-- Components that compare as equal are equal: rank and text determine a component. -/
instance : Std.LawfulEqOrd Component where
  compare_self {component} :=
    @Std.ReflCmp.compare_self _ (compareLex (compareOn rank) (compareOn text)) _ component
  eq_of_compare {left right} equal := by
    have parts := compareLex_eq_eq.1 equal
    have ranks : left.rank = right.rank := Std.LawfulEqCmp.eq_of_compare parts.1
    have texts : left.text = right.text := Std.LawfulEqCmp.eq_of_compare parts.2
    cases left <;> cases right <;> simp_all [rank, text]

/-- The component that a piece between slashes stands for; empty pieces and dots stand for none. -/
def ofPiece? : List Char → Option Component
  | [] => none
  | ['.'] => none
  | ['.', '.'] => some .parent
  | piece => some (.name (String.ofList piece))

end Component

/-- The pieces of a path's text between its slashes. -/
def pieces (path : Path) : List (List Char) := path.text.toList.splitOn '/'

/-- The path leads on from the root of the disk. -/
def isAbsolute (path : Path) : Bool := path.text.toList.head? = some '/'

/-- What stands in front of the names: the root, a leading dot, or nothing. -/
def leading (path : Path) : List Component :=
  if path.isAbsolute then [.root]
  else if path.pieces.head? = some ['.'] then [.current]
  else []

/-- The components of a path, in order. -/
def components (path : Path) : List Component :=
  path.leading ++ path.pieces.filterMap Component.ofPiece?

/-- Two paths are the same place: their components agree, whatever their spelling. -/
def Same (left right : Path) : Prop := left.components = right.components

/-- Whether paths are the same is found out by their components. -/
instance (left right : Path) : Decidable (Same left right) :=
  inferInstanceAs (Decidable (left.components = right.components))

/-- The order in which paths are listed. -/
def precedes (left right : Path) : Bool := (compare left.components right.components).isLE

/-- The path of a name below a path. -/
def join (base : Path) (name : String) : Path :=
  if base.text = "" then ⟨name⟩
  else if base.text.toList.getLast? = some '/' then ⟨base.text ++ name⟩
  else ⟨base.text ++ "/" ++ name⟩

/-- The path that spells some components without further slashes. -/
def ofComponents : List Component → Path
  | .root :: rest => ⟨"/" ++ "/".intercalate (rest.map Component.text)⟩
  | components => ⟨"/".intercalate (components.map Component.text)⟩

/--
The path itself and the paths above it, each in the next one, without the root and the empty
path.
-/
def ancestors (path : Path) : List Path :=
  let components := path.components
  let above := (List.range (components.length - 1)).map fun distance =>
    components.take (components.length - 1 - distance)
  if components = [] ∨ components = [.root] then []
  else path :: (above.filter (· ≠ [Component.root])).map ofComponents

/-- What follows the components of `base` in a path that starts with them. -/
def relativeTo? (path base : Path) : Option Path :=
  if base.components.isPrefixOf path.components then
    some (ofComponents (path.components.drop base.components.length))
  else none

end Path

end BenchTree

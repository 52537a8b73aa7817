/-!
# Backends

A backend is a build tool for which descriptions are written. Its name is shared by the command
line, the configuration and the manifest. Where letter case does not matter only the letters of
ASCII are folded, so no other character takes part in a name.
-/

namespace BenchTree

/-- The build tools for which descriptions can be written. -/
inductive Backend where
  | cmake
  | meique
  deriving DecidableEq, Repr

/-- No backend has the given name. -/
structure UnknownBackend where
  name : String
  deriving DecidableEq, Repr

/-- The wording of the refusal, with the name as it was given. -/
def UnknownBackend.message (unknown : UnknownBackend) : String :=
  "Unknown backend: " ++ unknown.name

namespace Backend

/-- Every backend, in the order in which descriptions are written by default. -/
def all : List Backend := [.cmake, .meique]

/-- The name that the command line, a configuration and a manifest give a backend. -/
def name : Backend → String
  | .cmake => "cmake"
  | .meique => "meique"

/-- The name of the files that hold the descriptions of a backend. -/
def fileName : Backend → String
  | .cmake => "CMakeLists.txt"
  | .meique => "meique.lua"

/-- Two texts agree up to the case of ASCII letters. -/
def sameIgnoringCase (left right : String) : Bool :=
  left.toList.map Char.toLower = right.toList.map Char.toLower

/-- The backend with exactly the given name. -/
def ofName? (text : String) : Option Backend :=
  all.find? fun backend => backend.name = text

/-- The backend of this name in any case of ASCII letters. -/
def ofNameIgnoringCase? (text : String) : Option Backend :=
  all.find? fun backend => sameIgnoringCase backend.name text

/-- The backend that a text names in any case of ASCII letters, or the text as unknown. -/
def parse (text : String) : Except UnknownBackend Backend :=
  match ofNameIgnoringCase? text with
  | some backend => .ok backend
  | none => .error ⟨text⟩

/-- The first occurrences in a list of backends, in order. -/
def distinct (backends : List Backend) : List Backend :=
  backends.foldl
    (fun kept backend => if backend ∈ kept then kept else kept ++ [backend]) []

@[simp]
theorem mem_distinct {backends : List Backend} {backend : Backend} :
    backend ∈ distinct backends ↔ backend ∈ backends := by
  suffices general : ∀ kept, backend ∈ backends.foldl
      (fun kept backend => if backend ∈ kept then kept else kept ++ [backend]) kept ↔
        backend ∈ kept ∨ backend ∈ backends by
    simpa [distinct] using general []
  induction backends with
  | nil => simp
  | cons first rest inductionHypothesis =>
    intro kept
    rw [List.foldl_cons, inductionHypothesis]
    by_cases present : first ∈ kept
    · simp only [present, if_true, List.mem_cons]
      constructor
      · rintro (member | member)
        · exact .inl member
        · exact .inr (.inr member)
      · rintro (member | rfl | member)
        · exact .inl member
        · exact .inl present
        · exact .inr member
    · simp [present, or_assoc]

theorem nodup_distinct (backends : List Backend) : (distinct backends).Nodup := by
  suffices general : ∀ kept : List Backend, kept.Nodup → (backends.foldl
      (fun kept backend => if backend ∈ kept then kept else kept ++ [backend]) kept).Nodup by
    exact general [] List.nodup_nil
  induction backends with
  | nil => exact fun _ unrepeated => unrepeated
  | cons first rest inductionHypothesis =>
    intro kept unrepeated
    apply inductionHypothesis
    by_cases present : first ∈ kept
    · simpa [present] using unrepeated
    · simp only [present, if_false]
      rw [List.nodup_append]
      refine ⟨unrepeated, by simp, ?_⟩
      intro old oldMember new newMember
      rw [List.mem_singleton.1 newMember]
      rintro rfl
      exact present oldMember

end Backend

end BenchTree

import BenchTree.Json.Decoder
import BenchTree.Json.Printer
import BenchTree.Manifest

/-!
# Manifests as JSON

Shapes, summaries, manifests and lists of backends as JSON, in both directions. A record that is
being read has an option for each field; when none is missing, the record is complete.
-/

namespace BenchTree

open Json

/-- A shape as the record of its numbers. -/
def Shape.toJson (shape : Shape) : Json.Value :=
  .object
    [("files_per_module", .word shape.filesPerModule), ("fanout", .word shape.fanout),
      ("modules", .word shape.modules)]

/-- A summary as the record of its counts. -/
def Summary.toJson (summary : Summary) : Json.Value :=
  .object
    [("modules", .word summary.modules), ("sources", .word summary.sources),
      ("descriptions", .word summary.descriptions),
      ("dependency_edges", .word summary.dependencyEdges)]

/-- Backends as the array of their names. -/
def Backend.listToJson (backends : List Backend) : Json.Value :=
  .array (backends.map fun backend => .text backend.name)

/-- A manifest as the record of its parts. -/
def Manifest.toJson (manifest : Manifest) : Json.Value :=
  .object
    [("params", manifest.shape.toJson), ("backends", Backend.listToJson manifest.backends),
      ("summary", manifest.summary.toJson),
      ("artifacts", .array (manifest.artifacts.map fun path => .text path.text))]

/-- Reads the name of a backend, in any case of ASCII letters. -/
def Backend.readJson : Reader Backend := fun input => do
  let (name, rest) ← readText .string input
  match Backend.parse name with
  | .ok backend => return (backend, rest)
  | .error unknown => .error (.mismatch (.unknownBackend unknown))

/-- Reads an array of names of backends. -/
def Backend.readJsonList : Reader (List Backend) := readArray Backend.readJson

/-- Reads a path from a string. -/
def Path.readJson : Reader Path := fun input => do
  let (text, rest) ← readText .path input
  return (⟨text⟩, rest)

/-- A field that `set` puts into a record and `get` finds there. -/
def field (name : String) (get : Partial → Option Content) (set : Partial → Content → Partial)
    (read : Reader Content) : RecordField Partial where
  name := name
  isRead record := (get record).isSome
  read record input := do
    let (value, rest) ← read input
    return (set record value, rest)

/-- A shape of which some numbers are read. -/
structure PartialShape where
  filesPerModule : Option Nat
  fanout : Option Nat
  modules : Option Nat

namespace PartialShape

/-- The fields of a shape, in order. -/
def fields : List (RecordField PartialShape) :=
  [field "files_per_module" filesPerModule
      (fun record value => { record with filesPerModule := some value }) readNat,
    field "fanout" fanout (fun record value => { record with fanout := some value }) readNat,
    field "modules" modules (fun record value => { record with modules := some value }) readNat]

/-- The shape, once every number is read. -/
def complete? (record : PartialShape) : Option Shape := do
  return ⟨← record.filesPerModule, ← record.fanout, ← record.modules⟩

end PartialShape

/-- What a record amounts to; the fields that are missing were reported before. -/
def completed (value : Option Result) (rest : List Char) : Except Json.Error (Result × List Char) :=
  match value with
  | some value => .ok (value, rest)
  | none => .error .malformed

/-- Reads a shape, of which no field may be missing. -/
def Shape.readJson : Reader Shape := fun input => do
  let (record, rest) ← readRecord "Params" PartialShape.fields ⟨none, none, none⟩ input
  completed record.complete? rest

/-- A summary of which some counts are read. -/
structure PartialSummary where
  modules : Option Nat
  sources : Option Nat
  descriptions : Option Nat
  dependencyEdges : Option Nat

namespace PartialSummary

/-- The fields of a summary, in order. -/
def fields : List (RecordField PartialSummary) :=
  [field "modules" modules (fun record value => { record with modules := some value }) readNat,
    field "sources" sources (fun record value => { record with sources := some value }) readNat,
    field "descriptions" descriptions
      (fun record value => { record with descriptions := some value }) readNat,
    field "dependency_edges" dependencyEdges
      (fun record value => { record with dependencyEdges := some value }) readNat]

/-- The summary, once every count is read. -/
def complete? (record : PartialSummary) : Option Summary := do
  return ⟨← record.modules, ← record.sources, ← record.descriptions, ← record.dependencyEdges⟩

end PartialSummary

/-- Reads a summary, of which no field may be missing. -/
def Summary.readJson : Reader Summary := fun input => do
  let (record, rest) ← readRecord "Summary" PartialSummary.fields ⟨none, none, none, none⟩ input
  completed record.complete? rest

/-- A manifest of which some parts are read. -/
structure PartialManifest where
  shape : Option Shape
  backends : Option (List Backend)
  summary : Option Summary
  artifacts : Option (List Path)

namespace PartialManifest

/-- The fields of a manifest, in order. -/
def fields : List (RecordField PartialManifest) :=
  [field "params" shape (fun record value => { record with shape := some value }) Shape.readJson,
    field "backends" backends (fun record value => { record with backends := some value })
      Backend.readJsonList,
    field "summary" summary (fun record value => { record with summary := some value })
      Summary.readJson,
    field "artifacts" artifacts (fun record value => { record with artifacts := some value })
      (readArray Path.readJson)]

/-- The manifest, once every part is read. -/
def complete? (record : PartialManifest) : Option Manifest := do
  return ⟨← record.shape, ← record.backends, ← record.summary, ← record.artifacts⟩

end PartialManifest

/-- Reads a manifest, of which no field may be missing. -/
def Manifest.readJson : Reader Manifest := fun input => do
  let (record, rest) ← readRecord "Manifest" PartialManifest.fields ⟨none, none, none, none⟩ input
  completed record.complete? rest

end BenchTree

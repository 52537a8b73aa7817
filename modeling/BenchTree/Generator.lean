import BenchTree.Manifest
import BenchTree.Tree

/-!
# Generators

A generator carries out the plan of a tree on a sink. A shape that describes no tree is refused
before the first call. The calls of different modules do not touch each other, so a generator that
may work on modules in parallel is free to make their calls in any interleaving; the one chosen
here takes the modules one after another.
-/

namespace BenchTree

/-- Why a run of a generator fails. -/
inductive GenerateError where
  | shape (problem : ShapeError)
  | storage (problem : IoError)
  deriving DecidableEq, Repr

/-- What is told about a run of a generator that fails. -/
def GenerateError.message : GenerateError → String
  | .shape problem => "Invalid parameters: " ++ problem.message
  | .storage problem => "IO error: " ++ problem.message

/-- A shape, distinct backends, and whether modules may be worked on in parallel. -/
structure Generator where
  shape : Shape
  backends : List Backend
  parallel : Bool

namespace Generator

/-- The generator for a list of backends, of which repetitions are dropped. -/
def create (shape : Shape) (backends : List Backend) (parallel : Bool) : Generator :=
  ⟨shape, Backend.distinct backends, parallel⟩

/-- All that a generator does at a root. -/
def plan (generator : Generator) (root : Path) : Plan :=
  Tree.plan root generator.shape generator.backends

/-- The summary of a completed run that counted the given number of headers and sources. -/
def summary (generator : Generator) (sources : Nat) : Summary where
  modules := generator.shape.modules
  sources := sources
  descriptions :=
    Word.saturatingMul generator.backends.length (Word.saturatingAdd generator.shape.modules 1)
  dependencyEdges := generator.shape.dependencyEdges

/-- The artifacts of a run by their paths below the root, in the order of paths. -/
def artifactList (root : Path) (recorded : List Path) : List Path :=
  (recorded.map fun path => (path.relativeTo? root).getD path).mergeSort Path.precedes

/-- The record of a completed run, from what it noted. -/
def manifest (generator : Generator) (root : Path) (notes : Notes) : Manifest where
  shape := generator.shape
  backends := generator.backends
  summary := generator.summary notes.sources
  artifacts := artifactList root notes.artifacts.toList

/-- The result of a run whose plan ended in the given way, with what it noted. -/
def conclude (generator : Generator) (root : Path) (result : Except IoError Unit)
    (notes : Notes) : Except GenerateError Manifest :=
  match result with
  | .error problem => .error (.storage problem)
  | .ok () => .ok (generator.manifest root notes)

/-- Generates the tree, noting artifacts if `recording`; a call is made in the given way. -/
@[specialize]
def carryOut [Monad m] (generator : Generator) (make : Call → m (Except IoError Unit))
    (root : Path) (recording : Bool) : m (Except GenerateError Manifest) := do
  match generator.shape.validate with
  | .error problem => return .error (.shape problem)
  | .ok () =>
      let (result, notes) ← (generator.plan root).carryOut make recording .empty
      return generator.conclude root result notes

/-- Generates the tree on a sink, noting artifacts if `recording`. -/
def run (generator : Generator) (sink : Sink State) (root : Path) (recording : Bool)
    (state : State) : Except GenerateError Manifest × State :=
  (generator.carryOut (m := StateM State) sink.perform root recording).run state

theorem run_of_valid {generator : Generator} (valid : generator.shape.validate = .ok ())
    (sink : Sink State) (root : Path) (recording : Bool) (state : State) :
    generator.run sink root recording state =
      let outcome := (generator.plan root).perform sink recording .empty state
      (generator.conclude root outcome.result outcome.notes, outcome.state) := by
  simp only [run, carryOut, valid]
  rfl

theorem run_of_invalid {generator : Generator} {problem : ShapeError}
    (invalid : generator.shape.validate = .error problem) (sink : Sink State) (root : Path)
    (recording : Bool) (state : State) :
    generator.run sink root recording state = (.error (.shape problem), state) := by
  simp only [run, carryOut, invalid]
  rfl

/-- Generates the tree and counts what was written. -/
def generate (generator : Generator) (sink : Sink State) (root : Path) (state : State) :
    Except GenerateError Summary × State :=
  let (result, state) := generator.run sink root false state
  (result.map Manifest.summary, state)

/-- Generates the tree and lists what was written. -/
def generateWithManifest (generator : Generator) (sink : Sink State) (root : Path)
    (state : State) : Except GenerateError Manifest × State :=
  generator.run sink root true state

end Generator

/-- Writes the main source of a tree and tells its path. -/
def writeMain (sink : Sink State) (root : Path) (modules : Nat) (state : State) :
    Except IoError Path × State :=
  let outcome := (Tree.mainPlan root modules).perform sink false .empty state
  (outcome.result.map fun _ => Tree.mainPath root, outcome.state)

/-- What became of the files of a module: how many were written, and those noted. -/
structure FilesOutcome (State : Type) where
  result : Except IoError Nat
  recorded : List Path
  state : State

/-- Writes the headers and sources of a module into a directory, noting them if `recording`. -/
def writeFiles (sink : Sink State) (directory : Path) (module : Nat) (shape : Shape)
    (recording : Bool) (state : State) : FilesOutcome State :=
  let outcome := (Tree.filesPlan directory module shape).perform sink recording .empty state
  { result := outcome.result.map fun _ => outcome.notes.sources
    recorded := outcome.notes.artifacts.toList
    state := outcome.state }

end BenchTree

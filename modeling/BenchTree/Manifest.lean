import BenchTree.Backend
import BenchTree.Path
import BenchTree.Shape

/-!
# Summaries and manifests

A summary counts what a run wrote. A manifest also says for which shape and backends, and lists
the artifacts by their paths below the root of the tree.
-/

namespace BenchTree

/-- The counts of a completed run. -/
structure Summary where
  modules : Nat
  sources : Nat
  descriptions : Nat
  dependencyEdges : Nat
  deriving DecidableEq, Repr

/-- The record of a completed run. -/
structure Manifest where
  shape : Shape
  backends : List Backend
  summary : Summary
  artifacts : List Path
  deriving DecidableEq, Repr

end BenchTree

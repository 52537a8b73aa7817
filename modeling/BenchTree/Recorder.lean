import BenchTree.Sink

/-!
# Recorded calls

A recorder is a sink that stores nothing but the calls themselves. It can be told to fail at one
of them, which shows how a run ends when storage does.
-/

namespace BenchTree.Recorder

/-- The sink that keeps its calls, and fails at call number `failAt`, which it keeps too. -/
def sink (failAt : Option Nat) : Sink (Array Call) where
  perform request calls :=
    (if failAt = some calls.size then .error .diskFull else .ok (), calls.push request)

end BenchTree.Recorder

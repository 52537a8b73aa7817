import BenchTree.Json.Place
import BenchTree.Main
import BenchTree.Path.Lemmas
import BenchTree.Proofs.Backend.Names
import BenchTree.Proofs.CommandLine.Exactness
import BenchTree.Proofs.CommandLine.Replacement
import BenchTree.Proofs.Config.Loading
import BenchTree.Proofs.Description.Agreement
import BenchTree.Proofs.Disk.Agreement
import BenchTree.Proofs.Disk.Repetition
import BenchTree.Proofs.Manifest.Printing
import BenchTree.Proofs.Program.Artifacts
import BenchTree.Proofs.Program.Refusal
import BenchTree.Proofs.Run.Confluence
import BenchTree.Proofs.Run.Counting
import BenchTree.Proofs.Run.Discipline
import BenchTree.Proofs.Run.Exact
import BenchTree.Proofs.Run.Interruption
import BenchTree.Proofs.Run.Manifest
import BenchTree.Proofs.Run.Selection
import BenchTree.Proofs.Run.Succession
import BenchTree.Proofs.Shape.Spread
import BenchTree.Proofs.Source.Closed
import BenchTree.Proofs.Source.Guards
import BenchTree.Proofs.Source.Initializers
import BenchTree.Proofs.Source.Main
import BenchTree.Proofs.Store.History
import BenchTree.Recorder
import BenchTree.Store

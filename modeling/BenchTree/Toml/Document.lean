import BenchTree.Toml.Statement

/-!
# TOML documents

The table that a document describes. Assignments go into the table that was opened last, or into
the document's own table before the first header. A document that repeats a key or a table, or
extends what is finished, describes nothing.
-/

namespace BenchTree.Toml

/-- The document's table so far, and the header under which assignments go. -/
structure Construction where
  entries : Entries
  header : List String

/-- What a statement adds to the tables under construction, if it may. -/
def Construction.step (construction : Construction) : Statement → Option Construction
  | .assign names value => do
      let entries ← construction.entries.insertAt construction.header names value
      some { construction with entries := entries }
  | .openTable names => do some ⟨← construction.entries.openTable names, names⟩
  | .openElement names => do some ⟨← construction.entries.openElement names, names⟩

/-- The table that statements build. -/
def tableOf? (statements : List Statement) : Option (List (String × Value)) := do
  let construction ← statements.foldlM Construction.step ⟨[], []⟩
  some (entriesToValues construction.entries)

/-- The table that a document describes, if it is well-formed. -/
def parse? (text : String) : Option (List (String × Value)) := do
  tableOf? (← statementsOf text)

end BenchTree.Toml

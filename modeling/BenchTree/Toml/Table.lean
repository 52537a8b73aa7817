import BenchTree.Toml.Value

/-!
# Building TOML tables

A document builds its tables from statements. A table remembers how it came about, because that
decides what may still be added to it: a table that a header names is finished by the next header,
one that was only passed through on the way to another may still get a header of its own, and one
that dotted keys made may only be extended by dotted keys. Values never change once they are there.
-/

namespace BenchTree.Toml

/-- How a table came about. -/
inductive Origin where
  /-- A header names it. -/
  | header
  /-- A header leads through it. -/
  | passage
  /-- Dotted keys lead through it. -/
  | dotted
  deriving DecidableEq, Repr

/-- What a table under construction holds under a key. -/
inductive Node where
  | value (value : Value)
  | table (origin : Origin) (entries : List (String × Node))
  | tables (elements : List (List (String × Node)))

/-- The entries of a table under construction, in the order of the document. -/
abbrev Entries := List (String × Node)

mutual

/-- The value of what a table under construction holds. -/
def Node.toValue : Node → Value
  | .value value => value
  | .table _ entries => .table (entriesToValues entries)
  | .tables elements => .array (tablesToValues elements)

/-- The values of the entries of a table. -/
def entriesToValues : List (String × Node) → List (String × Value)
  | [] => []
  | (key, node) :: rest => (key, node.toValue) :: entriesToValues rest

/-- The values of the tables of an array. -/
def tablesToValues : List (List (String × Node)) → List Value
  | [] => []
  | entries :: rest => .table (entriesToValues entries) :: tablesToValues rest

end

namespace Entries

/-- Puts a node in the place of the one under a key. -/
def replace (entries : Entries) (key : String) (node : Node) : Entries :=
  entries.map fun (name, old) => (name, if name = key then node else old)

/-- Leaves out what is under a key. -/
def erase (entries : Entries) (key : String) : Entries :=
  entries.filter fun (name, _) => name ≠ key

/--
Changes the table at the end of a path. Tables that are missing on the way are made. The way leads
through the last table of an array. Dotted keys do not lead through a table that has a header.
-/
def modify (isDotted : Bool) (change : Origin → Entries → Option Entries) :
    List String → Origin → Entries → Option Entries
  | [], origin, entries => change origin entries
  | key :: path, _, entries =>
      match entries.lookup key with
      | none => do
          let origin : Origin := if isDotted then .dotted else .passage
          let inner ← modify isDotted change path origin []
          some (entries ++ [(key, .table origin inner)])
      | some (.value _) => none
      | some (.table origin inner) => do
          guard (!(isDotted && origin = .header))
          let inner ← modify isDotted change path origin inner
          some (entries.replace key (.table origin inner))
      | some (.tables elements) => do
          let last ← modify isDotted change path .header (← elements.getLast?)
          some (entries.replace key (.tables (elements.dropLast ++ [last])))

/-- Puts a value under a dotted key into a table that has a header. -/
def insert (entries : Entries) (names : List String) (value : Value) : Option Entries := do
  let key ← names.getLast?
  let path := names.dropLast
  let add (origin : Origin) (entries : Entries) : Option Entries := do
    guard (decide (origin = .dotted) = !path.isEmpty)
    guard (entries.lookup key).isNone
    some (entries ++ [(key, .value value)])
  modify true add path .header entries

/-- Opens a table by its header; a table that was passed through moves behind its siblings. -/
def openTable (entries : Entries) (names : List String) : Option Entries := do
  let key ← names.getLast?
  let add (_origin : Origin) (entries : Entries) : Option Entries :=
    match entries.lookup key with
    | none => some (entries ++ [(key, .table .header [])])
    | some (.table .passage inner) => some (entries.erase key ++ [(key, .table .header inner)])
    | some _ => none
  modify false add names.dropLast .header entries

/-- Opens a new table at the end of an array of tables. -/
def openElement (entries : Entries) (names : List String) : Option Entries := do
  let key ← names.getLast?
  let add (_origin : Origin) (entries : Entries) : Option Entries :=
    match entries.lookup key with
    | none => some (entries ++ [(key, .tables [[]])])
    | some (.tables elements) => some (entries.replace key (.tables (elements ++ [[]])))
    | some _ => none
  modify false add names.dropLast .header entries

/-- Puts a value under a dotted key into the table that a header opened. -/
def insertAt (entries : Entries) (header : List String) (names : List String) (value : Value) :
    Option Entries :=
  modify false (fun _ inner => insert inner names value) header .header entries

end Entries

end BenchTree.Toml

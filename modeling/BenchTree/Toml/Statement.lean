import BenchTree.Toml.Number
import BenchTree.Toml.Table

/-!
# The statements of a TOML document

A document is a list of statements: a key with its value, the header of a table, or the header of
an element of an array of tables. Arrays may go over several lines, inline tables may not. How
deep arrays and inline tables are nested is bounded, which is what the readers recur on.
-/

namespace BenchTree.Toml

/-- A statement of a document. -/
inductive Statement where
  | assign (names : List String) (value : Value)
  | openTable (names : List String)
  | openElement (names : List String)

/-- Takes a word that stands for a value. -/
def readWord (word : List Char) (value : Value) : Reader Value := fun input =>
  if word.isPrefixOf input then some (value, input.drop word.length) else none

/-- Takes a value that is no array and no inline table. -/
def readScalar : Reader Value := fun input =>
  match input with
  | [] => none
  | '"' :: _ | '\'' :: _ => do
      let (characters, rest) ← readStringChars input
      some (.string (String.ofList characters), rest)
  | 't' :: _ => readWord ['t', 'r', 'u', 'e'] (.boolean true) input
  | 'f' :: _ => readWord ['f', 'a', 'l', 's', 'e'] (.boolean false) input
  | _ => readNumber input

/-- Takes the elements of an array, whose opening bracket is taken already. -/
def readElements (element : Reader Value) (input : List Char) :
    Option (List Value × List Char) := do
  match ← skipTrivia false input with
  | ']' :: rest => some ([], rest)
  | start => do
      let (first, rest) ← element start
      match ← skipTrivia false rest with
      | ']' :: rest => some ([first], rest)
      | ',' :: rest =>
          if _isShorter : rest.length < input.length then do
            let (others, rest) ← readElements element rest
            some (first :: others, rest)
          else none
      | _ => none
termination_by input.length

/-- Takes a key, an equals sign and a value. -/
def readAssignment (value : Reader Value) : Reader (List String × Value) := fun input => do
  let (names, rest) ← readKey input
  match rest with
  | '=' :: rest => do
      let (value, rest) ← value (skipBlanks rest)
      some ((names, value), rest)
  | _ => none

/-- Takes the entries of an inline table from a key on. -/
def readInlineEntries (value : Reader Value) (entries : Entries) (input : List Char) :
    Option (Entries × List Char) := do
  let ((names, assigned), rest) ← readAssignment value input
  let entries ← entries.insert names assigned
  match skipBlanks rest with
  | '}' :: rest => some (entries, rest)
  | ',' :: rest =>
      if _isShorter : rest.length < input.length then readInlineEntries value entries rest else none
  | _ => none
termination_by input.length

/-- Takes an inline table, whose opening brace is taken already. -/
def readInlineTable (value : Reader Value) : Reader Value := fun input =>
  match skipBlanks input with
  | '}' :: rest => some (.table [], rest)
  | start => do
      let (entries, rest) ← readInlineEntries value [] start
      some (.table (entriesToValues entries), rest)

/-- Takes a value with so many levels of arrays and inline tables in it. -/
def readValue : Nat → Reader Value
  | 0, input => readScalar input
  | levels + 1, input =>
      match input with
      | '[' :: rest => do
          let (elements, rest) ← readElements (readValue levels) rest
          some (.array elements, rest)
      | '{' :: rest => readInlineTable (readValue levels) rest
      | _ => readScalar input

/-- Takes a statement up to the white space behind it. -/
def readStatement : Reader Statement := fun input =>
  match input with
  | '[' :: '[' :: rest => do
      let (names, rest) ← readKey rest
      match rest with
      | ']' :: ']' :: rest => some (.openElement names, rest)
      | _ => none
  | '[' :: rest => do
      let (names, rest) ← readKey rest
      match rest with
      | ']' :: rest => some (.openTable names, rest)
      | _ => none
  | _ => do
      let ((names, value), rest) ← readAssignment (readValue deepest) input
      some (.assign names value, rest)

/-- Takes all statements of a document, and the comments and empty lines around them. -/
def readStatements (input : List Char) : Option (List Statement) := do
  match ← skipTrivia false input with
  | [] => some []
  | start => do
      let (statement, rest) ← readStatement start
      let rest ← readTrailing rest
      if _isShorter : rest.length < input.length then do
        let statements ← readStatements rest
        some (statement :: statements)
      else none
termination_by input.length

/-- The statements of a document; a byte-order mark in front does not count. -/
def statementsOf (text : String) : Option (List Statement) :=
  match text.toList with
  | '\ufeff' :: rest => readStatements rest
  | input => readStatements input

end BenchTree.Toml

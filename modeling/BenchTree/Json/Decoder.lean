import BenchTree.Json.Number

/-!
# Reading JSON into a given type

A document is read from left to right into the type that is wanted, and the first problem ends the
reading: a mismatch is reported although the rest may not even be JSON. A word of the wrong kind is
read whole before it is reported, a bracket of the wrong kind at once.

A record is an object or the array of its fields in order. An object may hold further members, of
which only the grammar counts.
-/

namespace BenchTree.Json

/-- What is found in front, where something else is expected. -/
def readFound : Reader Found := fun input =>
  match input with
  | '"' :: rest => do
      let (text, rest) ← readString rest
      return (.string text, rest)
  | '[' :: rest => .ok (.sequence, rest)
  | '{' :: rest => .ok (.map, rest)
  | 'n' :: _ => do
      let ((), rest) ← readWord ['n', 'u', 'l', 'l'] input
      return (.null, rest)
  | 't' :: _ => do
      let ((), rest) ← readWord ['t', 'r', 'u', 'e'] input
      return (.boolean true, rest)
  | 'f' :: _ => do
      let ((), rest) ← readWord ['f', 'a', 'l', 's', 'e'] input
      return (.boolean false, rest)
  | _ => do
      let (number, rest) ← readNumber input
      return (number.found, rest)

/-- Reports what is found in front as being of the wrong kind. -/
def refuse (expected : Expected) : Reader Result := fun input => do
  let (found, _) ← readFound input
  .error (.mismatch (.kind found expected))

/-- A number may start with the character. -/
def startsNumber (character : Char) : Bool := character = '-' || character.isDigit

/-- Reads a number that is a word. -/
def readNat : Reader Nat := fun input =>
  let input := skipBlanks input
  if input.head?.any startsNumber then do
    let (number, rest) ← readNumber input
    match number with
    | .natural value => return (value, rest)
    | .negative _ => .error (.mismatch (.value number.found .word))
    | .float _ _ => .error (.mismatch (.kind number.found .word))
  else refuse .word input

/-- Reads a string; what is expected of it is told when there is none. -/
def readText (expected : Expected) : Reader String := fun input =>
  match skipBlanks input with
  | '"' :: rest => readString rest
  | input => refuse expected input

/-- What follows a member of an array: another one, or the end. -/
inductive Following where
  | member
  | finish

/-- Takes what stands between two members, or behind the last one. -/
def readFollowing (closing : Char) : Reader Following := fun input =>
  match skipBlanks input with
  | ',' :: rest => .ok (.member, rest)
  | character :: rest => if character = closing then .ok (.finish, rest) else .error .malformed
  | [] => .error .malformed

/-- Takes the closing bracket if it comes next. -/
def takeClosing? (closing : Char) (input : List Char) : Option (List Char) :=
  match skipBlanks input with
  | character :: rest => if character = closing then some rest else none
  | [] => none

/-- Reads the elements of an array from an element on. -/
def readElements (element : Reader Element) (input : List Char) :
    Except Error (List Element × List Char) := do
  if (takeClosing? ']' input).isSome then .error .malformed
  let (first, rest) ← element input
  let (following, rest) ← readFollowing ']' rest
  match following with
  | .finish => return ([first], rest)
  | .member =>
      if _isShorter : rest.length < input.length then do
        let (others, rest) ← readElements element rest
        return (first :: others, rest)
      else .error .malformed
termination_by input.length

/-- Reads an array of elements of one kind. -/
def readArray (element : Reader Element) : Reader (List Element) := fun input =>
  match skipBlanks input with
  | '[' :: rest =>
      match takeClosing? ']' rest with
      | some rest => .ok ([], rest)
      | none => readElements element rest
  | input => refuse .sequence input

/-- Takes a key and the colon behind it. -/
def skipKey (input : List Char) : Except Error (List Char) :=
  match skipBlanks input with
  | '"' :: rest => do
      let (_, rest) ← readPieces rest
      match skipBlanks rest with
      | ':' :: rest => return rest
      | _ => .error .malformed
  | _ => .error .malformed

/-- Takes a literal, a number or a string of which nothing is wanted. -/
def skipScalar (input : List Char) : Except Error (List Char) :=
  match input with
  | '"' :: rest => do return (← readPieces rest).2
  | 'n' :: _ => do return (← readWord ['n', 'u', 'l', 'l'] input).2
  | 't' :: _ => do return (← readWord ['t', 'r', 'u', 'e'] input).2
  | 'f' :: _ => do return (← readWord ['f', 'a', 'l', 's', 'e'] input).2
  | _ => do return (← readNumberParts input).2

mutual

/-- Takes a value of which nothing is wanted. -/
def skipValue (input : List Char) : Except Error (List Char) :=
  match skipBlanks input with
  | '[' :: rest =>
      match takeClosing? ']' rest with
      | some rest => .ok rest
      | none =>
          if _isShorter : rest.length < input.length then skipElements rest else .error .malformed
  | '{' :: rest =>
      match takeClosing? '}' rest with
      | some rest => .ok rest
      | none =>
          if _isShorter : rest.length < input.length then skipMembers rest else .error .malformed
  | input => skipScalar input
termination_by (input.length, 0)

/-- Takes elements of an array, from an element on, of which nothing is wanted. -/
def skipElements (input : List Char) : Except Error (List Char) := do
  let rest ← skipValue input
  let (following, rest) ← readFollowing ']' rest
  match following with
  | .finish => return rest
  | .member =>
      if _isShorter : rest.length < input.length then skipElements rest else .error .malformed
termination_by (input.length, 1)

/-- Takes members of an object, from a key on, of which nothing is wanted. -/
def skipMembers (input : List Char) : Except Error (List Char) := do
  let value ← skipKey input
  if _isShorter : value.length < input.length then do
    let rest ← skipValue value
    let (following, rest) ← readFollowing '}' rest
    match following with
    | .finish => return rest
    | .member =>
        if _isShorter : rest.length < input.length then skipMembers rest else .error .malformed
  else .error .malformed
termination_by (input.length, 1)

end

/-- A field of a record that is read bit by bit into `Partial`. -/
structure RecordField (Partial : Type) where
  name : String
  isRead : Partial → Bool
  read : Partial → Reader Partial

/-- Reads one member of an object, whose key starts here, into a record. -/
def readMember (fields : List (RecordField Partial)) (record : Partial) (input : List Char) :
    Except Error (Partial × List Char) :=
  match skipBlanks input with
  | '"' :: rest => do
      let (key, rest) ← readString rest
      let field := fields.find? (·.name = key)
      if field.any (·.isRead record) then .error (.mismatch (.duplicateField key))
      match skipBlanks rest with
      | ':' :: rest =>
          match field with
          | some field => field.read record rest
          | none => return (record, ← skipValue rest)
      | _ => .error .malformed
  | _ => .error .malformed

/-- Reads the members of an object, from a key on, into a record. -/
def readMembers (fields : List (RecordField Partial)) (record : Partial) (input : List Char) :
    Except Error (Partial × List Char) := do
  let (record, rest) ← readMember fields record input
  let (following, rest) ← readFollowing '}' rest
  match following with
  | .finish => return (record, rest)
  | .member =>
      if _isShorter : rest.length < input.length then readMembers fields record rest
      else .error .malformed
termination_by input.length

/-- Reads the fields of a record in order from an array; `index` of them are read already. -/
def readSequence (name : String) (count : Nat) :
    List (RecordField Partial) → Nat → Partial → Reader Partial
  | [], _, record, input =>
      match takeClosing? ']' input with
      | some rest => .ok (record, rest)
      | none => .error .malformed
  | field :: fields, index, record, input =>
      match takeClosing? ']' input with
      | some _ => .error (.mismatch (.length index name count))
      | none => do
          let input ←
            if index = 0 then .ok input
            else match skipBlanks input with
              | ',' :: rest =>
                  if (takeClosing? ']' rest).isSome then .error .malformed else .ok rest
              | _ => .error .malformed
          let (record, rest) ← field.read record input
          readSequence name count fields (index + 1) record rest

/-- The first field that was not read is missing. -/
def checkComplete (fields : List (RecordField Partial)) (record : Partial) : Except Error Unit :=
  match fields.find? fun field => !field.isRead record with
  | some field => .error (.mismatch (.missingField field.name))
  | none => .ok ()

/-- Reads a record from an object or an array. -/
def readRecord (name : String) (fields : List (RecordField Partial)) (unread : Partial) :
    Reader Partial := fun input =>
  match skipBlanks input with
  | '[' :: rest => readSequence name fields.length fields 0 unread rest
  | '{' :: rest => do
      let (record, rest) ← match takeClosing? '}' rest with
        | some rest => .ok (unread, rest)
        | none => readMembers fields unread rest
      checkComplete fields record
      return (record, rest)
  | input => refuse (.record name) input

/-- Reads a whole document; only blanks may follow the value. -/
def parse (read : Reader Result) (text : String) : Except Error Result := do
  let (value, rest) ← read text.toList
  if skipBlanks rest = [] then return value else .error .malformed

end BenchTree.Json

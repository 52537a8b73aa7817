import BenchTree.Mismatch
import BenchTree.Word

/-!
# Places in messages

A message about a document may end with the line and the column that it is about. They are no part
of what went wrong, so a message is shown without them, also when they come from the document.
-/

namespace BenchTree.Json

/-- What follows a given word and a number behind it. -/
def afterNumber? (word : String) (text : List Char) : Option (List Char) :=
  if word.toList.isPrefixOf text then
    let (digits, rest) := (text.drop word.length).span Char.isDigit
    match Word.read (String.ofList digits) with
    | .ok _ => some rest
    | .error _ => none
  else none

/-- A text is a line and a column and nothing else. -/
def isPlace (text : List Char) : Bool :=
  (afterNumber? " at line " text).bind (afterNumber? " column ") = some []

/-- A text without the place at its end. -/
def withoutPlace : List Char → List Char
  | [] => []
  | character :: rest =>
      if isPlace (character :: rest) then [] else character :: withoutPlace rest

/-- The wording of a mismatch in a JSON document. -/
def mismatchMessage (problem : Mismatch) : String :=
  String.ofList (withoutPlace problem.message.toList)

end BenchTree.Json

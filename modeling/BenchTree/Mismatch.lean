import BenchTree.Backend
import BenchTree.Text.Quoted

/-!
# Mismatches

A well-formed document may still hold something else than what is asked of it. A mismatch says
what was found and what was expected. The causes and their wording are the same for every document
format; a format only decides how its floating point numbers are written.
-/

namespace BenchTree

/-- What a document holds where something else is expected. -/
inductive Found where
  | integer (value : Int)
  | float (text : String)
  | boolean (value : Bool)
  | null
  | string (text : String)
  | sequence
  | map
  deriving DecidableEq, Repr

/-- What was found, in words. -/
def Found.message : Found → String
  | .integer value => "integer `" ++ toString value ++ "`"
  | .float text => "floating point `" ++ text ++ "`"
  | .boolean value => "boolean `" ++ toString value ++ "`"
  | .null => "null"
  | .string text => "string " ++ Text.quoted text
  | .sequence => "sequence"
  | .map => "map"

/-- What is expected of a document. -/
inductive Expected where
  | word
  | boolean
  | string
  | path
  | sequence
  | record (name : String)
  deriving DecidableEq, Repr

/-- What was expected, in words. -/
def Expected.message : Expected → String
  | .word => "usize"
  | .boolean => "a boolean"
  | .string => "a string"
  | .path => "path string"
  | .sequence => "a sequence"
  | .record name => "struct " ++ name

/-- Why a well-formed document does not fit. -/
inductive Mismatch where
  /-- The value is of another kind. -/
  | kind (found : Found) (expected : Expected)
  /-- The value is of the right kind but out of range. -/
  | value (found : Found) (expected : Expected)
  /-- A record given as a sequence has too few members. -/
  | length (members : Nat) (record : String) (expected : Nat)
  | missingField (name : String)
  | duplicateField (name : String)
  | unknownField (name : String) (expected : List String)
  | unknownBackend (unknown : UnknownBackend)
  deriving DecidableEq, Repr

namespace Mismatch

/-- A name between backquotes. -/
def backquoted (name : String) : String := "`" ++ name ++ "`"

/-- Names of which one is expected. -/
def alternatives : List String → String
  | [name] => backquoted name
  | names => "one of " ++ ", ".intercalate (names.map backquoted)

/-- What is told about a mismatch. -/
def message : Mismatch → String
  | .kind found expected => "invalid type: " ++ found.message ++ ", expected " ++ expected.message
  | .value found expected =>
      "invalid value: " ++ found.message ++ ", expected " ++ expected.message
  | .length members record expected =>
      "invalid length " ++ toString members ++ ", expected struct " ++ record ++ " with "
        ++ toString expected ++ " elements"
  | .missingField name => "missing field " ++ backquoted name
  | .duplicateField name => "duplicate field " ++ backquoted name
  | .unknownField name expected =>
      "unknown field " ++ backquoted name ++ ", expected " ++ alternatives expected
  | .unknownBackend unknown => unknown.message

end Mismatch

end BenchTree

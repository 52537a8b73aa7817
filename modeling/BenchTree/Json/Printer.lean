/-!
# Writing JSON

The values that are written are words, texts, arrays and objects. A layout decides where lines are
broken: nowhere in the compact one, around every member and two blanks deeper on every level in
the pretty one. In strings only quotes, backslashes and control characters are marked.
-/

namespace BenchTree.Json

/-- A value that is written as JSON. -/
inductive Value where
  | word (value : Nat)
  | text (value : String)
  | array (elements : List Value)
  | object (members : List (String × Value))

/-- Where lines are broken. -/
structure Layout where
  /-- What stands in front of a member that is this deep, and behind the last one. -/
  lineBreak : Nat → String
  /-- What stands between a key and its value. -/
  colon : String

namespace Layout

/-- Everything on one line, without blanks. -/
def compact : Layout := ⟨fun _ => "", ":"⟩

/-- Every member on a line of its own. -/
def pretty : Layout := ⟨fun depth => "\n" ++ String.ofList (List.replicate (2 * depth) ' '), ": "⟩

end Layout

/-- A character as it stands in a string. -/
def escapeChar (character : Char) : List Char :=
  match character with
  | '"' => ['\\', '"']
  | '\\' => ['\\', '\\']
  | '\x08' => ['\\', 'b']
  | '\x0c' => ['\\', 'f']
  | '\n' => ['\\', 'n']
  | '\r' => ['\\', 'r']
  | '\t' => ['\\', 't']
  | character =>
      if character.toNat < 0x20 then
        ['\\', 'u', '0', '0', Nat.digitChar (character.toNat / 16),
          Nat.digitChar (character.toNat % 16)]
      else [character]

/-- A text between quotes, with escapes where they are needed. -/
def stringText (text : String) : String :=
  "\"" ++ String.ofList (text.toList.flatMap escapeChar) ++ "\""

/-- Members between brackets; no line is broken where there are none. -/
def bracketed (layout : Layout) (depth : Nat) (opening closing : String)
    (members : List String) : String :=
  if members.isEmpty then opening ++ closing
  else
    opening ++ ",".intercalate (members.map (layout.lineBreak (depth + 1) ++ ·))
      ++ layout.lineBreak depth ++ closing

mutual

/-- The text of a value that stands this deep. -/
def Value.render (layout : Layout) (depth : Nat) : Value → String
  | .word value => toString value
  | .text value => stringText value
  | .array elements => bracketed layout depth "[" "]" (renderElements layout (depth + 1) elements)
  | .object members =>
      bracketed layout depth "\x7b" "\x7d" (renderMembers layout (depth + 1) members)

/-- The texts of the elements of an array. -/
def renderElements (layout : Layout) (depth : Nat) : List Value → List String
  | [] => []
  | element :: rest => element.render layout depth :: renderElements layout depth rest

/-- The texts of the members of an object. -/
def renderMembers (layout : Layout) (depth : Nat) : List (String × Value) → List String
  | [] => []
  | (key, value) :: rest =>
      (stringText key ++ layout.colon ++ value.render layout depth)
        :: renderMembers layout depth rest

end

/-- The text of a value in a layout. -/
def Value.toText (value : Value) (layout : Layout) : String := value.render layout 0

end BenchTree.Json

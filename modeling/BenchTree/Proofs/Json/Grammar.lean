import BenchTree.Json.Decoder
import Mathlib

/-!
# The grammar of JSON

What a JSON text is, apart from how it is read: blanks around everything, strings with escapes,
numbers, arrays, objects, and values of all these kinds. On top of that, what it is for a text to
spell a list or a record. A record is spelled by an object with a member for each of its fields, in
any order and among members of other names, or by the array of its fields in order.
-/

namespace BenchTree.Json

/-! ## Blanks -/

/-- Nothing but white space. -/
def IsBlanks (text : List Char) : Prop := ∀ letter ∈ text, isBlank letter = true

/-- A token with blanks around it. -/
structure Padded where
  lead : List Char
  token : List Char
  trail : List Char
  lead_blank : IsBlanks lead
  trail_blank : IsBlanks trail

/-- The token with the white space around it. -/
def Padded.text (padded : Padded) : List Char := padded.lead ++ padded.token ++ padded.trail

/-! ## Strings -/

/-- What stands between quotes, and its pieces: characters, escapes, and units by their digits. -/
inductive HasPieces : List Char → List Piece → Prop where
  | nil : HasPieces [] []
  | plain {letter : Char} {text : List Char} {pieces : List Piece} (visible : 0x20 ≤ letter.toNat)
      (no_quote : letter ≠ '"') (no_backslash : letter ≠ '\\') (later : HasPieces text pieces) :
      HasPieces (letter :: text) (.character letter :: pieces)
  | escape {letter character : Char} {text : List Char} {pieces : List Piece}
      (escapes : unescape? letter = some character) (later : HasPieces text pieces) :
      HasPieces ('\\' :: letter :: text) (.character character :: pieces)
  | unit {first second third fourth : Char} {value : Nat} {text : List Char} {pieces : List Piece}
      (digits : hexUnit? first second third fourth = some value) (later : HasPieces text pieces) :
      HasPieces ('\\' :: 'u' :: first :: second :: third :: fourth :: text) (.unit value :: pieces)

/-- Letters between quotes. -/
def quote (letters : List Char) : List Char := '"' :: (letters ++ ['"'])

/-- What stands between quotes is a text, with escapes or without. -/
def HasText (letters : List Char) (text : String) : Prop :=
  ∃ pieces, HasPieces letters pieces ∧ joinPieces? pieces = some text.toList

/-- A token spells a text. -/
def SpellsText (token : List Char) (text : String) : Prop :=
  ∃ letters, token = quote letters ∧ HasText letters text

/-! ## Numbers -/

/-- Digits, of which there is one. -/
structure IsDigits (digits : List Char) : Prop where
  nonempty : digits ≠ []
  each : ∀ digit ∈ digits, digit.isDigit = true

/-- The digits before the point: a zero stands alone. -/
structure IsWhole (digits : List Char) : Prop extends IsDigits digits where
  no_leading_zero : ∀ rest, digits = '0' :: rest → rest = []

/-- The digits behind the point, or nothing. -/
inductive IsFraction : List Char → Prop where
  | none : IsFraction []
  | some {digits : List Char} (is_digits : IsDigits digits) : IsFraction ('.' :: digits)

/-- The mark of an exponent with its sign and digits, or nothing. -/
inductive IsExponent : List Char → Prop where
  | none : IsExponent []
  | some {mark : Char} {sign digits : List Char} (is_mark : mark = 'e' ∨ mark = 'E')
      (is_sign : sign ∈ [[], ['+'], ['-']]) (is_digits : IsDigits digits) :
      IsExponent (mark :: (sign ++ digits))

/-- A number by its parts: a sign or none, whole digits, a fraction and an exponent. -/
inductive IsNumber : List Char → Prop where
  | parts {sign whole fraction exponent : List Char} (is_sign : sign ∈ [[], ['-']])
      (is_whole : IsWhole whole) (is_fraction : IsFraction fraction)
      (is_exponent : IsExponent exponent) : IsNumber (sign ++ whole ++ fraction ++ exponent)

/-! ## Arrays and objects -/

/-- The elements of an array in brackets, with commas between them. -/
def arrayText (elements : List Padded) : List Char :=
  '[' :: ([','].intercalate (elements.map Padded.text) ++ [']'])

/-- A member of an object: its key between quotes, a colon, and its value. -/
structure Member where
  lead : List Char
  letters : List Char
  middle : List Char
  value : Padded
  lead_blank : IsBlanks lead
  middle_blank : IsBlanks middle

/-- The text of a member. -/
def Member.text (member : Member) : List Char :=
  member.lead ++ quote member.letters ++ member.middle ++ ':' :: member.value.text

/-- The members of an object in braces, with commas between them. -/
def objectText (members : List Member) : List Char :=
  '\x7b' :: ([','].intercalate (members.map Member.text) ++ ['\x7d'])

/-- A value: a literal, a number, a string, an array or an object. -/
inductive IsValue : List Char → Prop where
  | null : IsValue ['n', 'u', 'l', 'l']
  | true : IsValue ['t', 'r', 'u', 'e']
  | false : IsValue ['f', 'a', 'l', 's', 'e']
  | number {token : List Char} (is_number : IsNumber token) : IsValue token
  | string {letters : List Char} {pieces : List Piece} (has_pieces : HasPieces letters pieces) :
      IsValue (quote letters)
  | emptyArray {blanks : List Char} (blank : IsBlanks blanks) : IsValue ('[' :: (blanks ++ [']']))
  | array {elements : List Padded} (nonempty : elements ≠ [])
      (each : ∀ element ∈ elements, IsValue element.token) : IsValue (arrayText elements)
  | emptyObject {blanks : List Char} (blank : IsBlanks blanks) :
      IsValue ('\x7b' :: (blanks ++ ['\x7d']))
  | object {members : List Member} (nonempty : members ≠ [])
      (keys : ∀ member ∈ members, ∃ pieces, HasPieces member.letters pieces)
      (each : ∀ member ∈ members, IsValue member.value.token) : IsValue (objectText members)

/-! ## Spelling -/

/-- A token spells a number by its decimal digits. -/
def SpellsNat (token : List Char) (number : Nat) : Prop := token = Nat.toDigits 10 number

/-- A token spells a list when the elements of an array spell its elements in order. -/
inductive SpellsList {Element : Type} (spells : List Char → Element → Prop) :
    List Char → List Element → Prop where
  | empty {blanks : List Char} (blank : IsBlanks blanks) :
      SpellsList spells ('[' :: (blanks ++ [']'])) []
  | elements {elements : List Padded} {values : List Element} (nonempty : elements ≠ [])
      (each : List.Forall₂ (fun element value => spells element.token value) elements values) :
      SpellsList spells (arrayText elements) values

/--
Keys and members of an object from which fields of known names are taken: `spells` says what spells
the content of a field, and what stands under another key is any value.
-/
structure AreMembers (known : List String) (spells : String → List Char → Prop)
    (members : List (String × Member)) : Prop where
  named : ∀ member ∈ members, HasText member.2.letters member.1
  each : ∀ member ∈ members, member.1 ∈ known → spells member.1 member.2.value.token
  others : ∀ member ∈ members, member.1 ∉ known → IsValue member.2.value.token

/--
A token spells a record with fields of these names: an object in which each of them is the key of
one member, in any order, or the array of the contents in order.
-/
inductive SpellsRecord (names : List String) (spells : String → List Char → Prop) :
    List Char → Prop where
  | object {members : List (String × Member)} (are_members : AreMembers names spells members)
      (fields : ((members.map Prod.fst).filter (· ∈ names)).Perm names) :
      SpellsRecord names spells (objectText (members.map Prod.snd))
  | array {elements : List Padded}
      (each : List.Forall₂ (fun element name => spells name element.token) elements names) :
      SpellsRecord names spells (arrayText elements)

end BenchTree.Json

import BenchTree.Mismatch
import BenchTree.Text.Hexadecimal

/-!
# The words of JSON

Blanks, strings, numbers and literals, each taken from the front of a text together with the rest
of it. Strings are taken in two steps: first the pieces that the grammar knows, then the
characters they stand for, where two surrogates make one character and a lone one makes none.
-/

namespace BenchTree.Json

/-- Why a text is refused: it is not JSON, or it does not fit. -/
inductive Error where
  | malformed
  | mismatch (problem : Mismatch)
  deriving DecidableEq, Repr

/-- What takes something from the front of a text and leaves the rest. -/
abbrev Reader (Result : Type) := List Char → Except Error (Result × List Char)

/-- A character that may stand between two parts of a text. -/
def isBlank (character : Char) : Bool :=
  character = ' ' || character = '\n' || character = '\t' || character = '\r'

/-- The text without the blanks in front. -/
def skipBlanks (input : List Char) : List Char := input.dropWhile isBlank

/-- The code unit that four hexadecimal digits spell. -/
def hexUnit? (first second third fourth : Char) : Option Nat := do
  let first ← Text.hexValue? first
  let second ← Text.hexValue? second
  let third ← Text.hexValue? third
  let fourth ← Text.hexValue? fourth
  return ((first * 16 + second) * 16 + third) * 16 + fourth

/-- The character that a letter after a backslash stands for. -/
def unescape? : Char → Option Char
  | '"' => some '"'
  | '\\' => some '\\'
  | '/' => some '/'
  | 'b' => some '\x08'
  | 'f' => some '\x0c'
  | 'n' => some '\n'
  | 'r' => some '\r'
  | 't' => some '\t'
  | _ => none

/-- A piece of a string: a character, or a unit of sixteen bits given by its number. -/
inductive Piece where
  | character (character : Char)
  | unit (value : Nat)
  deriving DecidableEq, Repr

/-- Takes the pieces of a string up to its closing quote, which is taken too. -/
def readPieces : Reader (List Piece)
  | [] => .error .malformed
  | '"' :: rest => .ok ([], rest)
  | '\\' :: 'u' :: first :: second :: third :: fourth :: rest =>
      match hexUnit? first second third fourth with
      | none => .error .malformed
      | some value => do
          let (pieces, rest) ← readPieces rest
          return (.unit value :: pieces, rest)
  | '\\' :: letter :: rest =>
      match unescape? letter with
      | none => .error .malformed
      | some character => do
          let (pieces, rest) ← readPieces rest
          return (.character character :: pieces, rest)
  | character :: rest =>
      if character.toNat < 0x20 ∨ character = '\\' then .error .malformed
      else do
        let (pieces, rest) ← readPieces rest
        return (.character character :: pieces, rest)

/-- The unit is the first of two that make a character. -/
def isHighSurrogate (value : Nat) : Bool := 0xD800 ≤ value && value < 0xDC00

/-- The unit is the second of two that make a character. -/
def isLowSurrogate (value : Nat) : Bool := 0xDC00 ≤ value && value < 0xE000

/-- The characters of a string, unless one of its surrogates is alone. -/
def joinPieces? : List Piece → Option (List Char)
  | [] => some []
  | .character character :: rest => (joinPieces? rest).map (character :: ·)
  | [.unit value] =>
      if isHighSurrogate value || isLowSurrogate value then none else some [Char.ofNat value]
  | .unit high :: .unit low :: rest =>
      if isHighSurrogate high then
        if isLowSurrogate low then
          (joinPieces? rest).map
            (Char.ofNat (0x10000 + (high - 0xD800) * 0x400 + (low - 0xDC00)) :: ·)
        else none
      else if isLowSurrogate high then none
      else (joinPieces? (.unit low :: rest)).map (Char.ofNat high :: ·)
  | .unit value :: rest =>
      if isHighSurrogate value || isLowSurrogate value then none
      else (joinPieces? rest).map (Char.ofNat value :: ·)

/-- Takes a string whose opening quote is taken already. -/
def readString : Reader String := fun input => do
  let (pieces, rest) ← readPieces input
  match joinPieces? pieces with
  | some characters => return (String.ofList characters, rest)
  | none => .error .malformed

/-- Takes a word that is to stand in front. -/
def readWord (word : List Char) : Reader Unit := fun input =>
  if word.isPrefixOf input then .ok ((), input.drop word.length) else .error .malformed

/-- The parts of a number: sign, digits before and after the point, and exponent. -/
structure NumberParts where
  isNegative : Bool
  whole : List Char
  fraction : List Char
  /-- The exponent's sign and digits. -/
  exponent : Option (Bool × List Char)
  deriving DecidableEq, Repr

/-- Takes digits as long as there are any. -/
def takeDigits (input : List Char) : List Char × List Char := input.span Char.isDigit

/-- Takes digits, of which there must be one. -/
def readDigits : Reader (List Char) := fun input =>
  match takeDigits input with
  | ([], _) => .error .malformed
  | (digits, rest) => .ok (digits, rest)

/-- Takes the digits before the point: a zero stands alone. -/
def readWhole : Reader (List Char) := fun input => do
  let (digits, rest) ← readDigits input
  match digits with
  | '0' :: _ :: _ => .error .malformed
  | _ => return (digits, rest)

/-- Takes the point and the digits after it, if there is a point. -/
def readFraction : Reader (List Char)
  | '.' :: rest => readDigits rest
  | input => .ok ([], input)

/-- Takes an exponent, if there is one. -/
def readExponent : Reader (Option (Bool × List Char)) := fun input =>
  let signed (input : List Char) : Except Error (Option (Bool × List Char) × List Char) := do
    let (isNegative, input) := match input with
      | '+' :: rest => (false, rest)
      | '-' :: rest => (true, rest)
      | input => (false, input)
    let (digits, rest) ← readDigits input
    return (some (isNegative, digits), rest)
  match input with
  | 'e' :: rest => signed rest
  | 'E' :: rest => signed rest
  | input => .ok (none, input)

/-- Takes the parts of a number, as far as the grammar goes. -/
def readNumberParts : Reader NumberParts := fun input => do
  let (isNegative, input) := match input with
    | '-' :: rest => (true, rest)
    | input => (false, input)
  let (whole, input) ← readWhole input
  let (fraction, input) ← readFraction input
  let (exponent, input) ← readExponent input
  return (⟨isNegative, whole, fraction, exponent⟩, input)

end BenchTree.Json

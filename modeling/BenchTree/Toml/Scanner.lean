import BenchTree.Text.Hexadecimal

/-!
# Blanks, comments, strings and keys of TOML

Each reader takes something from the front of a text and gives the rest, or nothing when the text
is not TOML. Lines end with a line feed, which a carriage return may precede; a carriage return
on its own is not TOML.
-/

namespace BenchTree.Toml

/-- What takes something from the front of a text and leaves the rest. -/
abbrev Reader (Result : Type) := List Char → Option (Result × List Char)

/-- White space within a line. -/
def isBlank (character : Char) : Bool := character = ' ' || character = '\t'

/-- The text without the white space in front. -/
def skipBlanks (input : List Char) : List Char := input.dropWhile isBlank

/-- A character outside of ASCII. -/
def isForeign (character : Char) : Bool := 0x80 ≤ character.toNat

/-- A visible character of ASCII or a blank. -/
def isPrintable (character : Char) : Bool :=
  decide (0x20 ≤ character.toNat) && decide (character.toNat ≤ 0x7E)

/-- A character that may stand in a comment. -/
def isCommentChar (character : Char) : Bool :=
  character = '\t' || isPrintable character || isForeign character

/-- Takes a comment, if there is one. -/
def skipComment : List Char → List Char
  | '#' :: rest => rest.dropWhile isCommentChar
  | input => input

/-- Takes the end of a line, or finds the end of the text. -/
def readLineEnd : List Char → Option (List Char)
  | [] => some []
  | '\n' :: rest => some rest
  | '\r' :: '\n' :: rest => some rest
  | _ => none

/-- Takes what may stand behind a statement: white space, a comment, and the end of the line. -/
def readTrailing (input : List Char) : Option (List Char) :=
  readLineEnd (skipComment (skipBlanks input))

/-- Takes white space, comments and ends of lines; `inComment` tells whether a comment is open. -/
def skipTrivia (inComment : Bool) : List Char → Option (List Char)
  | [] => some []
  | '\n' :: rest => skipTrivia false rest
  | '\r' :: '\n' :: rest => skipTrivia false rest
  | character :: rest =>
      if inComment then
        if isCommentChar character then skipTrivia true rest else none
      else if isBlank character then skipTrivia false rest
      else if character = '#' then skipTrivia true rest
      else some (character :: rest)

/-- The character of a code point given by hexadecimal digits. -/
def charOfHex? (digits : List Char) : Option Char := do
  let code ← digits.foldlM (fun code digit => return code * 16 + (← Text.hexValue? digit)) 0
  if code.isValidChar then some (Char.ofNat code) else none

/-- The character that a letter after a backslash stands for. -/
def unescape? : Char → Option Char
  | 'b' => some '\x08'
  | 't' => some '\t'
  | 'n' => some '\n'
  | 'f' => some '\x0c'
  | 'r' => some '\r'
  | '"' => some '"'
  | '\\' => some '\\'
  | _ => none

/-- A character that may stand for itself in a string with escapes. -/
def isBasicChar (character : Char) : Bool :=
  isCommentChar character && character ≠ '"' && character ≠ '\\'

/-- A character that may stand in a string without escapes. -/
def isLiteralChar (character : Char) : Bool :=
  isCommentChar character && character ≠ '\''

/-- Takes a string with escapes, whose opening quote is taken already. -/
def readBasic : Reader (List Char)
  | [] => none
  | '"' :: rest => some ([], rest)
  | '\\' :: 'u' :: d1 :: d2 :: d3 :: d4 :: rest => do
      let character ← charOfHex? [d1, d2, d3, d4]
      let (characters, rest) ← readBasic rest
      some (character :: characters, rest)
  | '\\' :: 'U' :: d1 :: d2 :: d3 :: d4 :: d5 :: d6 :: d7 :: d8 :: rest => do
      let character ← charOfHex? [d1, d2, d3, d4, d5, d6, d7, d8]
      let (characters, rest) ← readBasic rest
      some (character :: characters, rest)
  | '\\' :: letter :: rest => do
      let character ← unescape? letter
      let (characters, rest) ← readBasic rest
      some (character :: characters, rest)
  | character :: rest => do
      guard (isBasicChar character)
      let (characters, rest) ← readBasic rest
      some (character :: characters, rest)

/-- Takes a string without escapes, whose opening quote is taken already. -/
def readLiteral : Reader (List Char)
  | [] => none
  | '\'' :: rest => some ([], rest)
  | character :: rest => do
      guard (isLiteralChar character)
      let (characters, rest) ← readLiteral rest
      some (character :: characters, rest)

/-- The line ends here, behind white space at most. -/
def endsLine (input : List Char) : Bool :=
  match skipBlanks input with
  | '\n' :: _ => true
  | '\r' :: '\n' :: _ => true
  | _ => false

/--
Takes a string of several lines with escapes. A backslash at the end of a line takes away all
white space up to the next other character, which is what `trimming` is for. Up to two quotes may
stand in front of the three that close the string.
-/
def readMultilineBasic (trimming : Bool) : Reader (List Char)
  | [] => none
  | '"' :: '"' :: '"' :: '"' :: '"' :: rest => some (['"', '"'], rest)
  | '"' :: '"' :: '"' :: '"' :: rest => some (['"'], rest)
  | '"' :: '"' :: '"' :: rest => some ([], rest)
  | '"' :: rest => do
      let (characters, rest) ← readMultilineBasic false rest
      some ('"' :: characters, rest)
  | '\r' :: '\n' :: rest =>
      if trimming then readMultilineBasic true rest
      else do
        let (characters, rest) ← readMultilineBasic false rest
        some ('\n' :: characters, rest)
  | '\n' :: rest =>
      if trimming then readMultilineBasic true rest
      else do
        let (characters, rest) ← readMultilineBasic false rest
        some ('\n' :: characters, rest)
  | '\\' :: 'u' :: d1 :: d2 :: d3 :: d4 :: rest => do
      let character ← charOfHex? [d1, d2, d3, d4]
      let (characters, rest) ← readMultilineBasic false rest
      some (character :: characters, rest)
  | '\\' :: 'U' :: d1 :: d2 :: d3 :: d4 :: d5 :: d6 :: d7 :: d8 :: rest => do
      let character ← charOfHex? [d1, d2, d3, d4, d5, d6, d7, d8]
      let (characters, rest) ← readMultilineBasic false rest
      some (character :: characters, rest)
  | '\\' :: letter :: rest =>
      if endsLine (letter :: rest) then readMultilineBasic true (letter :: rest)
      else do
        let character ← unescape? letter
        let (characters, rest) ← readMultilineBasic false rest
        some (character :: characters, rest)
  | character :: rest =>
      if trimming && isBlank character then readMultilineBasic true rest
      else do
        guard (isBasicChar character)
        let (characters, rest) ← readMultilineBasic false rest
        some (character :: characters, rest)

/-- Takes a string of several lines without escapes. -/
def readMultilineLiteral : Reader (List Char)
  | [] => none
  | '\'' :: '\'' :: '\'' :: '\'' :: '\'' :: rest => some (['\'', '\''], rest)
  | '\'' :: '\'' :: '\'' :: '\'' :: rest => some (['\''], rest)
  | '\'' :: '\'' :: '\'' :: rest => some ([], rest)
  | '\r' :: '\n' :: rest => do
      let (characters, rest) ← readMultilineLiteral rest
      some ('\n' :: characters, rest)
  | character :: rest => do
      guard (character = '\'' || character = '\n' || isLiteralChar character)
      let (characters, rest) ← readMultilineLiteral rest
      some (character :: characters, rest)

/-- The end of a line right behind the opening quotes does not count. -/
def skipFirstLineEnd : List Char → List Char
  | '\n' :: rest => rest
  | '\r' :: '\n' :: rest => rest
  | input => input

/-- Takes the characters of a string of any kind. -/
def readStringChars : Reader (List Char)
  | '"' :: '"' :: '"' :: rest => readMultilineBasic false (skipFirstLineEnd rest)
  | '"' :: rest => readBasic rest
  | '\'' :: '\'' :: '\'' :: rest => readMultilineLiteral (skipFirstLineEnd rest)
  | '\'' :: rest => readLiteral rest
  | _ => none

/-- A character that may stand in a key without quotes. -/
def isBareChar (character : Char) : Bool :=
  character.isAlphanum || character = '-' || character = '_'

/-- Takes one name of a key: bare, or a string of one line. -/
def readName : Reader String
  | '"' :: rest => do
      let (characters, rest) ← readBasic rest
      some (String.ofList characters, rest)
  | '\'' :: rest => do
      let (characters, rest) ← readLiteral rest
      some (String.ofList characters, rest)
  | input =>
      match input.span isBareChar with
      | ([], _) => none
      | (name, rest) => some (String.ofList name, rest)

/-- Takes a key of at most so many names, with dots between them and white space around them. -/
def readNames : Nat → Reader (List String)
  | 0, _ => none
  | remaining + 1, input => do
      let (name, rest) ← readName (skipBlanks input)
      match skipBlanks rest with
      | '.' :: rest => do
          let (names, rest) ← readNames remaining rest
          some (name :: names, rest)
      | rest => some ([name], rest)

/-- The largest number of names in a key. -/
def deepest : Nat := 79

/-- Takes a key. -/
def readKey : Reader (List String) := readNames deepest

end BenchTree.Toml

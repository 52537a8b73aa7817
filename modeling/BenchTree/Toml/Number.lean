import BenchTree.Toml.Scanner
import BenchTree.Toml.Value

/-!
# Numbers, dates and times of TOML

Integers are signed words; floating point numbers are the nearest ones to their text, and a text
beyond the largest one is not TOML unless it is negative, which gives minus infinity. Underscores
may stand between digits. Dates and times are checked and forgotten.
-/

namespace BenchTree.Toml

open BenchTree.Decimal

/-- Takes more digits behind a digit; an underscore must stand between two of them. -/
def readMoreDigits (isDigit : Char → Bool) : Reader (List Char)
  | [] => some ([], [])
  | '_' :: digit :: rest => do
      guard (isDigit digit)
      let (digits, rest) ← readMoreDigits isDigit rest
      some (digit :: digits, rest)
  | character :: rest =>
      if isDigit character then do
        let (digits, rest) ← readMoreDigits isDigit rest
        some (character :: digits, rest)
      else if character = '_' then none
      else some ([], character :: rest)

/-- Takes digits, of which there must be one. -/
def readDigits (isDigit : Char → Bool) : Reader (List Char)
  | [] => none
  | digit :: rest => do
      guard (isDigit digit)
      let (digits, rest) ← readMoreDigits isDigit rest
      some (digit :: digits, rest)

/-- Takes decimal digits that are a zero or do not start with one. -/
def readWhole : Reader (List Char)
  | '0' :: rest => some (['0'], rest)
  | input => readDigits Char.isDigit input

/-- Takes a sign, if there is one. -/
def readSign : List Char → Option Bool × List Char
  | '+' :: rest => (some false, rest)
  | '-' :: rest => (some true, rest)
  | input => (none, input)

/-- The value of digits in a base up to sixteen. -/
def digitsValue (base : Nat) (digits : List Char) : Nat :=
  digits.foldl (fun value digit => value * base + (Text.hexValue? digit).getD 0) 0

/-- The number of signed words of either sign. -/
def signedLimit : Int := 0x8000000000000000

/-- An integer of TOML, unless it is no signed word. -/
def integer? (value : Int) : Option Value :=
  if -signedLimit ≤ value ∧ value < signedLimit then some (.integer value) else none

/-- A digit of a base up to sixteen. -/
def isDigitOf (base : Nat) (character : Char) : Bool :=
  (Text.hexValue? character).any fun value => decide (value < base)

/-- Takes an integer in another base, whose mark is taken already. -/
def readBased (base : Nat) : Reader Value := fun input => do
  let (digits, rest) ← readDigits (isDigitOf base) input
  some (← integer? (digitsValue base digits), rest)

/-- Takes an exponent behind its mark: digits, with a sign or without. -/
def readExponent : Reader Int := fun input => do
  let (sign, input) := readSign input
  let (digits, rest) ← readDigits Char.isDigit input
  let value : Int := digitsValue 10 digits
  some (if sign = some true then -value else value, rest)

/-- The floating point number of a text, unless it is too large. -/
def real? (isNegative : Bool) (digits : List Char) (exponent : Int) : Option Value :=
  match Binary64.ofDecimal? (digitsValue 10 digits) exponent with
  | some value => some (.real (.finite isNegative value))
  | none => if isNegative then some (.real (.infinite true)) else none

/-- Takes what may follow the whole part of a number: a fraction, an exponent, or neither. -/
def readReal (isNegative : Bool) (whole : List Char) : Reader Value := fun input => do
  let (fraction, rest) ← match input with
    | '.' :: rest => readDigits Char.isDigit rest
    | input => some ([], input)
  let (exponent, rest) ← match rest with
    | 'e' :: rest => readExponent rest
    | 'E' :: rest => readExponent rest
    | rest => some (0, rest)
  some (← real? isNegative (whole ++ fraction) (exponent - fraction.length), rest)

/-- A fraction or an exponent follows. -/
def startsReal : List Char → Bool
  | '.' :: _ => true
  | 'e' :: _ => true
  | 'E' :: _ => true
  | _ => false

/-- Takes a number in decimal digits, an infinity, or the text that stands for no number. -/
def readDecimal : Reader Value := fun input => do
  let (sign, input) := readSign input
  let isNegative := sign = some true
  match input with
  | 'i' :: 'n' :: 'f' :: rest => some (.real (.infinite isNegative), rest)
  | 'n' :: 'a' :: 'n' :: rest => some (.real .notANumber, rest)
  | input => do
      let (whole, rest) ← readWhole input
      if startsReal rest then readReal isNegative whole rest
      else
        let value : Int := digitsValue 10 whole
        some (← integer? (if isNegative then -value else value), rest)

/-- Takes a number of exactly so many digits. -/
def readFixed (count : Nat) : Reader Nat := fun input =>
  let digits := input.take count
  if digits.length = count ∧ digits.all Char.isDigit then
    some (digitsValue 10 digits, input.drop count)
  else none

/-- Takes one given character. -/
def readChar (character : Char) : List Char → Option (List Char)
  | first :: rest => if first = character then some rest else none
  | [] => none

/-- The number of days of a month. -/
def daysIn (year month : Nat) : Nat :=
  let isLeap := year % 4 = 0 ∧ (year % 100 ≠ 0 ∨ year % 400 = 0)
  if month = 2 then (if isLeap then 29 else 28)
  else if month ∈ [4, 6, 9, 11] then 30
  else 31

/-- Takes a day of the calendar. -/
def readDate (input : List Char) : Option (List Char) := do
  let (year, rest) ← readFixed 4 input
  let (month, rest) ← readFixed 2 (← readChar '-' rest)
  let (day, rest) ← readFixed 2 (← readChar '-' rest)
  guard (1 ≤ month ∧ month ≤ 12 ∧ 1 ≤ day ∧ day ≤ daysIn year month)
  some rest

/-- Takes hours and minutes. -/
def readMinutes (input : List Char) : Option (List Char) := do
  let (hour, rest) ← readFixed 2 input
  let (minute, rest) ← readFixed 2 (← readChar ':' rest)
  guard (hour ≤ 23 ∧ minute ≤ 59)
  some rest

/-- Takes a time of day; a minute may have a leap second. -/
def readTime (input : List Char) : Option (List Char) := do
  let (second, rest) ← readFixed 2 (← readChar ':' (← readMinutes input))
  guard (second ≤ 60)
  match rest with
  | '.' :: digit :: rest => do
      guard digit.isDigit
      some (rest.dropWhile Char.isDigit)
  | rest => some rest

/-- Takes the distance of a time zone, if there is one. -/
def readZone : List Char → Option (List Char)
  | 'Z' :: rest => some rest
  | 'z' :: rest => some rest
  | '+' :: rest => readMinutes rest
  | '-' :: rest => readMinutes rest
  | input => some input

/-- Takes the time of day behind a date, if there is one. -/
def readTimeOfDate (input : List Char) : Option (List Char) :=
  match input with
  | separator :: digit :: _ =>
      if separator ∈ ['T', 't', ' '] ∧ digit.isDigit then do
        readZone (← readTime (input.drop 1))
      else some input
  | input => some input

/-- Takes a date, a date with a time, or a time. -/
def readMoment : Reader Value := fun input => do
  if (readFixed 4 input).isSome then
    some (.moment, ← readTimeOfDate (← readDate input))
  else some (.moment, ← readTime input)

/-- A date or a time follows. -/
def startsMoment (input : List Char) : Bool :=
  (readFixed 4 input).any (fun (_, rest) => rest.head? = some '-')
    || (readFixed 2 input).any (fun (_, rest) => rest.head? = some ':')

/-- Takes a number, a date or a time. -/
def readNumber : Reader Value := fun input =>
  match input with
  | '0' :: 'x' :: rest => readBased 16 rest
  | '0' :: 'o' :: rest => readBased 8 rest
  | '0' :: 'b' :: rest => readBased 2 rest
  | _ => if startsMoment input then readMoment input else readDecimal input

end BenchTree.Toml

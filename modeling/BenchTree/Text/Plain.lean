/-!
# Plain text

Text without the control sequences that a terminal would act on. A sequence starts with the escape
character, wherever that stands, and two control characters cancel it. How it goes on depends on
what comes behind the escape character; a sequence that does not end hides the rest of the text.
Control characters outside of sequences are left out one by one, except those that are blanks. A
blank also shows inside a sequence in which control characters are still acted on; it either ends
that sequence or makes it pause.
-/

namespace BenchTree.Text

/-- Where in a control sequence a text stands. -/
inductive ControlState where
  /-- Outside of all sequences. -/
  | text
  /-- Behind the escape character. -/
  | escape
  /-- Behind the escape character and one that announces a final character. -/
  | announced
  /-- Inside a sequence with parameters, which ends with a letter. -/
  | parameters
  /-- At the start of a sequence for a device. -/
  | device
  /-- Among the parameters of a sequence for a device. -/
  | deviceParameters
  /-- Behind the parameters of a sequence for a device. -/
  | deviceAnnounced
  /-- Inside a string that a byte of its own ends. -/
  | string
  /-- Inside a string that the bell ends. -/
  | title
  deriving DecidableEq, Repr

/-- The code point of a character lies between two given ones. -/
def isBetween (first last : Nat) (character : Char) : Bool :=
  decide (first ≤ character.toNat) && decide (character.toNat ≤ last)

/-- A control character, the delete character among them. -/
def isControl (character : Char) : Bool :=
  isBetween 0x00 0x1F character || character = '\x7f'

/-- A control character that lays out text. -/
def isLayoutControl (character : Char) : Bool :=
  character = '\t' || character = '\n' || character = '\x0c' || character = '\r'

/-- A character that calls off the control sequence it stands in. -/
def isCancel (character : Char) : Bool := character = '\x18' || character = '\x1a'

/-- A character that announces the end of a control sequence. -/
def isAnnouncement (character : Char) : Bool := isBetween 0x20 0x2F character

/-- A character that ends the parameters of a sequence. -/
def isLetter (character : Char) : Bool := isBetween 0x40 0x7E character

/-- The byte that ends a string is among those of a character. -/
def endsString (character : Char) : Bool := (String.utf8EncodeChar character).contains 0x9C

namespace ControlState

/-- The state behind the character that follows the escape character. -/
def afterEscape (character : Char) : ControlState :=
  if character = '[' then .parameters
  else if character = ']' then .title
  else if character = 'P' then .device
  else if character ∈ ['X', '^', '_'] then .string
  else if isAnnouncement character then .announced
  else if isBetween 0x30 0x7E character then .text
  else .escape

/-- The state behind a character that is left out of the text. -/
def next (state : ControlState) (character : Char) : ControlState :=
  if character = '\x1b' then .escape
  else if isCancel character then .text
  else match state with
    | .text => .text
    | .escape => afterEscape character
    | .announced => if isBetween 0x30 0x7E character then .text else .announced
    | .parameters => if isLetter character then .text else .parameters
    | .device =>
        if isLetter character then .string
        else if isAnnouncement character then .deviceAnnounced
        else if isBetween 0x30 0x3F character then .deviceParameters
        else .device
    | .deviceParameters =>
        if isBetween 0x3C 0x7E character then .string
        else if isAnnouncement character then .deviceAnnounced
        else .deviceParameters
    | .deviceAnnounced => if isBetween 0x30 0x7E character then .string else .deviceAnnounced
    | .string => if endsString character then .text else .string
    | .title => if character = '\x07' then .text else .title

/-- In this state the character belongs to the text. -/
def isShown (state : ControlState) (character : Char) : Bool :=
  match state with
  | .text => !isControl character || isLayoutControl character
  | .escape | .announced | .parameters => isLayoutControl character
  | .device | .deviceParameters | .deviceAnnounced | .string | .title => false

end ControlState

/-- What a blank does to the control sequence that it stands in. -/
inductive BlankEffect where
  /-- The sequence is over, and the text goes on. -/
  | ends
  /-- The sequence waits while characters of the text follow, and goes on behind them. -/
  | pauses
  deriving DecidableEq, Repr

/-- The sequence that is left behind a shown character. One that waits is over as soon as a
character outside of ASCII is shown. -/
def BlankEffect.remaining (effect : BlankEffect) (sequence : ControlState) (shown : Char) :
    ControlState :=
  match effect with
  | .ends => .text
  | .pauses => if isBetween 0x00 0x7F shown then sequence else .text

/-- The characters of a text that are no control sequences. While a sequence is waiting, characters
count as they do outside of all sequences. -/
def plainChars (effect : BlankEffect) (sequence : ControlState) (isWaiting : Bool) :
    List Char → List Char
  | [] => []
  | character :: rest =>
      let state := if isWaiting then .text else sequence
      if state.isShown character then
        character :: plainChars effect (effect.remaining sequence character) true rest
      else plainChars effect (sequence.next character) false rest

/-- A text without control sequences. -/
def plain (effect : BlankEffect) (text : String) : String :=
  String.ofList (plainChars effect .text false text.toList)

end BenchTree.Text

namespace ExampleBuild

/-! Codes for terminals. A text may hold control characters and longer codes, which
start with an escape character and are not shown themselves. -/

namespace Terminal

/-! ## Writing codes -/

def code (number : String) : String := "\x1b[" ++ number ++ "m"

def styled (numbers : List String) (text : String) : String :=
  String.join (numbers.map code) ++ text ++ code "0"

/-! ## Taking codes out

A place in a text is outside of all codes or within one. What ends a code depends on
how it goes on after the escape character. -/

inductive Place
  | outside
  | afterEscape
  /-- Within a code of few characters, which a digit or a letter ends. -/
  | shortCode
  /-- Within a code that a letter ends. -/
  | longCode
  /-- Within a text for the terminal itself, such as a title, which a bell ends. -/
  | command
  /-- At the start of a code for a device: numbers, marks and a letter come before its
  text. A head with these parts out of order is taken for text at once. -/
  | deviceHead
  | deviceNumbers
  | deviceMarks
  /-- Within a text for a device, which a closing byte ends. -/
  | deviceText
  deriving DecidableEq

/-- A control that moves on in a line or ends it. Such controls are kept. -/
def isLayout (letter : Char) : Bool :=
  letter = '\t' || letter = '\n' || letter = '\x0c' || letter = '\r'

def isWithin (first last letter : Char) : Bool := first ≤ letter && letter ≤ last

def closingByte : UInt8 := 0x9C

/-- The closing byte counts wherever it stands, also as a part of a character. -/
def holdsClosingByte (letter : Char) : Bool :=
  (String.utf8EncodeChar letter).contains closingByte

namespace Place

def openedBy (letter : Char) : Place :=
  if letter = '[' then .longCode
  else if letter = ']' then .command
  else if letter = 'P' then .deviceHead
  else if letter = 'X' || letter = '^' || letter = '_' then .deviceText
  else if isWithin ' ' '/' letter then .shortCode
  else if isWithin '0' '~' letter then .outside
  else .afterEscape

/-- The place after a character that is not kept. An escape character opens a code
anywhere, and two controls end every code. -/
def after (place : Place) (letter : Char) : Place :=
  if letter = '\x1b' then .afterEscape
  else if letter = '\x18' || letter = '\x1a' then .outside
  else
    match place with
    | .outside => .outside
    | .afterEscape => openedBy letter
    | .shortCode => if isWithin '0' '~' letter then .outside else .shortCode
    | .longCode => if isWithin '@' '~' letter then .outside else .longCode
    | .command => if letter = '\x07' then .outside else .command
    | .deviceHead =>
        if isWithin ' ' '/' letter then .deviceMarks
        else if isWithin '0' '?' letter then .deviceNumbers
        else if isWithin '@' '~' letter then .deviceText
        else .deviceHead
    | .deviceNumbers =>
        if isWithin ' ' '/' letter then .deviceMarks
        else if isWithin '<' '~' letter then .deviceText
        else .deviceNumbers
    | .deviceMarks => if isWithin '0' '~' letter then .deviceText else .deviceMarks
    | .deviceText => if holdsClosingByte letter then .outside else .deviceText

/-- Whether a character is kept. Layout is kept within a code too, and breaks it off,
unless the code holds a text. -/
def keeps (place : Place) (letter : Char) : Bool :=
  match place with
  | .outside => isLayout letter || (' ' ≤ letter && letter ≠ '\x7f')
  | .afterEscape | .shortCode | .longCode => isLayout letter
  | .command | .deviceHead | .deviceNumbers | .deviceMarks | .deviceText => false

end Place

def withoutCodes : Place → List Char → List Char
  | _, [] => []
  | place, letter :: rest =>
      if place.keeps letter then letter :: withoutCodes .outside rest
      else withoutCodes (place.after letter) rest

def plain (text : String) : String := String.ofList (withoutCodes .outside text.toList)

end Terminal

end ExampleBuild

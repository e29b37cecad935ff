import ExampleBuild.Event
import ExampleBuild.Text.Alphanumeric
import ExampleBuild.Text.Blank
import ExampleBuild.Text.Numeral

namespace ExampleBuild

/-! Directives say how much of what happens a log shows. A directive is written as a
level, as a target, or as `target[span{field=value}]=level` with most parts left out. -/

namespace Log

structure FieldCondition where
  name : String
  value : Option String
  deriving DecidableEq

/-- The level up to which events are shown, or none to show no event. A part that is
left out restricts nothing. -/
structure Directive where
  target : Option String
  span : Option String
  field : Option FieldCondition
  upTo : Option Level
  deriving DecidableEq

namespace Directive

def everythingUpTo (level : Option Level) : Directive := ⟨none, none, none, level⟩

/-- Spans and the values of fields are asked for only by directives about spans, and
nothing here happens within a span. -/
def concernsEvents (directive : Directive) : Bool :=
  directive.span = none && directive.field.all fun field => field.value = none

def covers (directive : Directive) (event : Event) : Bool :=
  directive.concernsEvents
    && directive.target.all (fun target => target.toList.isPrefixOf event.target.toList)
    && directive.field.all fun field => event.hasField field.name

def shows (directive : Directive) (level : Level) : Bool :=
  match directive.upTo with
  | none => false
  | some upTo => level.verbosity ≤ upTo.verbosity

def targetLength (directive : Directive) : Nat := (directive.target.getD "").length

/-- Whether a directive counts less than a later one that covers the same event. One
with a longer target counts more, then one that asks for a field, then the field whose
name comes later in a dictionary. -/
def yieldsTo (earlier later : Directive) : Bool :=
  if earlier.targetLength = later.targetLength then
    match earlier.field, later.field with
    | none, _ => true
    | some _, none => false
    | some earlierField, some laterField => earlierField.name ≤ laterField.name
  else earlier.targetLength < later.targetLength

end Directive

/-! ## Writing of levels -/

def asciiLower (text : String) : String := String.ofList (text.toList.map Char.toLower)

def levelOfNumber? : Nat → Option (Option Level)
  | 0 => some none
  | 1 => some (some .error)
  | 2 => some (some .warning)
  | 3 => some (some .information)
  | 4 => some (some .debugging)
  | 5 => some (some .tracing)
  | _ => none

def levelOfName? (name : String) : Option (Option Level) :=
  match asciiLower name with
  | "off" => some none
  | "error" => some (some .error)
  | "warn" => some (some .warning)
  | "info" => some (some .information)
  | "debug" => some (some .debugging)
  | "trace" => some (some .tracing)
  | _ => none

def levelOfText? (text : String) : Option (Option Level) :=
  match Numeral.value? text with
  | some number => levelOfNumber? number
  | none => levelOfName? text

/-! ## Reading directives -/

inductive DirectiveError
  | malformed
  | unknownLevel
  deriving DecidableEq

def DirectiveError.message : DirectiveError → String
  | .malformed => "invalid filter directive"
  | .unknownLevel =>
      "error parsing level filter: expected one of \"off\", \"error\", \"warn\", \"info\", "
        ++ "\"debug\", \"trace\", or a number 0-5"

def FieldCondition.ofText (text : String) : FieldCondition :=
  let letters := text.toList
  let name := letters.takeWhile (· ≠ '=')
  match letters.drop name.length with
  | [] => ⟨text, none⟩
  | _ :: value => ⟨String.ofList name, some (String.ofList (value.takeWhile (· ≠ '=')))⟩

namespace Directive

/-! The shape of a directive is that of its text without the blanks around it. Its
parts, however, are cut out of the whole text, at the places where they stand in the
one without blanks. The two differ where blanks stand in front. -/

def openBrace : Char := '\x7b'

def closeBrace : Char := '\x7d'

def width (letters : List Char) : Nat := (utf8 (String.ofList letters)).length

def cut (whole : ByteText) (start length : Nat) : String :=
  ByteText.shown ((whole.drop start).take length)

def readLevel (whole : ByteText) (start : Nat) (directive : Directive) :
    List Char → Except DirectiveError Directive
  | [] => .ok directive
  | sign :: _ =>
      if sign = '=' then
        match whole.drop (start + 1) with
        | [] => .ok directive
        | level =>
            match levelOfText? (ByteText.shown level) with
            | some upTo => .ok { directive with upTo }
            | none => .error .unknownLevel
      else .error .malformed

def readField (whole : ByteText) (start : Nat) (directive : Directive)
    (letters : List Char) : Except DirectiveError Directive :=
  let field := letters.takeWhile (· ≠ closeBrace)
  match letters.drop field.length with
  | _ :: bracket :: rest =>
      if field = [] || bracket ≠ ']' then .error .malformed
      else
        let condition := FieldCondition.ofText (cut whole start (width field))
        readLevel whole (start + width field + 2) { directive with field := some condition }
          rest
  | _ => .error .malformed

def readSpan (whole : ByteText) (start : Nat) (directive : Directive)
    (letters : List Char) : Except DirectiveError Directive :=
  let name := letters.takeWhile fun letter => letter ≠ ']' && letter ≠ openBrace
  let span := cut whole start (width name)
  match letters.drop name.length with
  | [] => .error .malformed
  | bracket :: rest =>
      let next := start + width name + 1
      if bracket = ']' then readLevel whole next { directive with span := some span } rest
      else
        let span := if name = [] then none else some span
        readField whole next { directive with span } rest

def readWord (whole : ByteText) (letters : List Char) : Except DirectiveError Directive :=
  let word := letters.takeWhile fun letter => letter ≠ '=' && letter ≠ '['
  let directive : Directive :=
    { everythingUpTo (some .tracing) with target := some (cut whole 0 (width word)) }
  match letters.drop word.length with
  | [] =>
      match levelOfText? whole.shown with
      | some upTo => .ok (everythingUpTo upTo)
      | none => .ok { directive with target := some whole.shown }
  | sign :: rest =>
      if sign = '[' then readSpan whole (width word + 1) directive rest
      else readLevel whole (width word) directive (sign :: rest)

def startsWord (letter : Char) : Bool :=
  letter = '-' || letter = ':' || letter = '_' || isAlphanumeric letter

def ofText (text : String) : Except DirectiveError Directive :=
  match withoutBlanksAround text.toList with
  | [] => .error .malformed
  | first :: rest =>
      if first = '[' then readSpan (utf8 text) 1 (everythingUpTo (some .tracing)) rest
      else if startsWord first then readWord (utf8 text) (first :: rest)
      else .error .malformed

end Directive

end Log

end ExampleBuild

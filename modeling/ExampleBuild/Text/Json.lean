namespace ExampleBuild

/-! JSON values with the members of an object in the order in which they are
written. Sequences are types of their own, so a function on values recurses
through them directly. -/

mutual
inductive Json where
  | null
  | number (value : Int)
  | string (text : String)
  | array (items : JsonItems)
  | object (members : JsonMembers)

inductive JsonItems where
  | nil
  | cons (head : Json) (tail : JsonItems)

inductive JsonMembers where
  | nil
  | cons (name : String) (value : Json) (tail : JsonMembers)
end

deriving instance DecidableEq for Json
deriving instance DecidableEq for JsonItems
deriving instance DecidableEq for JsonMembers

namespace JsonItems

def ofList : List Json → JsonItems
  | [] => .nil
  | head :: tail => .cons head (ofList tail)

end JsonItems

namespace JsonMembers

def ofList : List (String × Json) → JsonMembers
  | [] => .nil
  | (name, value) :: tail => .cons name value (ofList tail)

end JsonMembers

namespace Json

def arrayOf (items : List Json) : Json := .array (.ofList items)

def objectOf (members : List (String × Json)) : Json := .object (.ofList members)

def strings (texts : List String) : Json := arrayOf (texts.map .string)

/-! ## Scalars -/

def hexDigit (digit : Nat) : Char :=
  if digit < 10 then Char.ofNat (48 + digit) else Char.ofNat (87 + digit)

/-- A character inside a JSON string. Only the quote, the backslash and the control
characters below the space are escaped. -/
def escaped (value : Char) : List Char :=
  if value = '"' then ['\\', '"']
  else if value = '\\' then ['\\', '\\']
  else if value = '\x08' then ['\\', 'b']
  else if value = '\x0c' then ['\\', 'f']
  else if value = '\n' then ['\\', 'n']
  else if value = '\r' then ['\\', 'r']
  else if value = '\t' then ['\\', 't']
  else if value.toNat < 32 then
    ['\\', 'u', '0', '0', hexDigit (value.toNat / 16), hexDigit (value.toNat % 16)]
  else [value]

def writtenString (text : String) : List Char :=
  '"' :: text.toList.flatMap escaped ++ ['"']

def writtenNumber (value : Int) : List Char :=
  let digits := Nat.toDigits 10 value.natAbs
  if value < 0 then '-' :: digits else digits

/-! ## Indented text

Each item of an array and each member of an object stands on a line of its own, two
spaces deeper than the line that opens it. An empty array or object is written on
the line where it stands. -/

def newLine (depth : Nat) : List Char := '\n' :: List.replicate (2 * depth) ' '

mutual
def written (depth : Nat) : Json → List Char
  | .null => ['n', 'u', 'l', 'l']
  | .number value => writtenNumber value
  | .string text => writtenString text
  | .array .nil => ['[', ']']
  | .array (.cons head tail) =>
      '[' :: newLine (depth + 1) ++ written (depth + 1) head
        ++ writtenItems (depth + 1) tail ++ newLine depth ++ [']']
  | .object .nil => ['\x7b', '\x7d']
  | .object (.cons name value tail) =>
      '\x7b' :: newLine (depth + 1) ++ writtenString name ++ [':', ' ']
        ++ written (depth + 1) value
        ++ writtenMembers (depth + 1) tail ++ newLine depth ++ ['\x7d']

def writtenItems (depth : Nat) : JsonItems → List Char
  | .nil => []
  | .cons head tail =>
      ',' :: newLine depth ++ written depth head ++ writtenItems depth tail

def writtenMembers (depth : Nat) : JsonMembers → List Char
  | .nil => []
  | .cons name value tail =>
      ',' :: newLine depth ++ writtenString name ++ [':', ' '] ++ written depth value
        ++ writtenMembers depth tail
end

def indented (value : Json) : String := String.ofList (written 0 value)

end Json

end ExampleBuild

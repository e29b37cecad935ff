import ExampleBuild.Text.ByteText
import ExampleBuild.Text.Printable

namespace ExampleBuild

/-! Quoted texts, as log records show arguments and names: between double quotes,
with an escape for each character that would not be seen as itself. -/

namespace Quoted

def hexDigits (value : Nat) : List Char := Nat.toDigits 16 value

/-- A character inside quotes. A character that is not printable is written as its
code point in lower-case hexadecimal digits. -/
def character (value : Char) : List Char :=
  if value = '\x00' then ['\\', '0']
  else if value = '\t' then ['\\', 't']
  else if value = '\r' then ['\\', 'r']
  else if value = '\n' then ['\\', 'n']
  else if value = '\\' then ['\\', '\\']
  else if value = '"' then ['\\', '"']
  else if isPrintable value then [value]
  else ['\\', 'u', '\x7b'] ++ hexDigits value.toNat ++ ['\x7d']

def upperHexDigit (digit : Nat) : Char :=
  if digit < 10 then Char.ofNat (48 + digit) else Char.ofNat (55 + digit)

def byte (value : UInt8) : List Char :=
  ['\\', 'x', upperHexDigit (value.toNat / 16), upperHexDigit (value.toNat % 16)]

def piece : ByteText.Piece → List Char
  | .character value => character value
  | .illFormed bytes => bytes.flatMap byte

def enclosed (inner : List Char) : String := String.ofList ('"' :: inner ++ ['"'])

def string (text : String) : String := enclosed (text.toList.flatMap character)

def byteText (bytes : ByteText) : String := enclosed (bytes.pieces.flatMap piece)

def list (texts : List String) : String :=
  "[" ++ ", ".intercalate (texts.map string) ++ "]"

end Quoted

end ExampleBuild

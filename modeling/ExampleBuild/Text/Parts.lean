namespace ExampleBuild

/-! Texts cut into parts, such as lines. -/

namespace Parts

def separated (separator : Char) : List Char → List (List Char)
  | [] => [[]]
  | letter :: rest =>
      if letter = separator then [] :: separated separator rest
      else
        match separated separator rest with
        | [] => [[letter]]
        | part :: parts => (letter :: part) :: parts

def between (separator : Char) (text : String) : List String :=
  (separated separator text.toList).map String.ofList

def lines (text : String) : List String := between '\n' text

/-- A text up to its first line break, which may be of two characters. -/
def firstLine (text : String) : String :=
  let line := text.toList.takeWhile (· ≠ '\n')
  if line.length < text.length && line.getLast? = some '\r' then String.ofList line.dropLast
  else String.ofList line

def hanging (indentation : String) (text : String) : String :=
  String.ofList (text.toList.flatMap fun letter =>
    if letter = '\n' then '\n' :: indentation.toList else [letter])

end Parts

end ExampleBuild

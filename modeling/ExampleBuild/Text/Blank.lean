import ExampleBuild.Text.CharacterRanges

namespace ExampleBuild

/-! Blanks are the characters that part words: spaces of every width, tabs and line
breaks. The table is data of the Unicode standard. -/

namespace Blank

def ranges : CharacterRanges :=
  [(0x9, 0xD), (0x20, 0x20), (0x85, 0x85), (0xA0, 0xA0), (0x1680, 0x1680), (0x2000, 0x200A),
   (0x2028, 0x2029), (0x202F, 0x202F), (0x205F, 0x205F), (0x3000, 0x3000)]

end Blank

def isBlank (value : Char) : Bool := Blank.ranges.covers value

def withoutBlanksAround (letters : List Char) : List Char :=
  ((letters.dropWhile isBlank).reverse.dropWhile isBlank).reverse

end ExampleBuild

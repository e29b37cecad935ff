namespace ExampleBuild

/-! Numbers as people write them into settings: decimal digits, perhaps after a plus
sign, of a value that fits into a machine word. -/

namespace Numeral

def wordLimit : Nat := 18446744073709551616

def valueOfDigits (digits : List Char) : Nat :=
  digits.foldl (fun value digit => 10 * value + (digit.toNat - 48)) 0

def value? (text : String) : Option Nat :=
  let digits := match text.toList with
    | '+' :: digits => digits
    | digits => digits
  if digits ≠ [] && digits.all Char.isDigit && valueOfDigits digits < wordLimit then
    some (valueOfDigits digits)
  else none

end Numeral

end ExampleBuild

namespace ExampleBuild

/-! Sets of characters, as ranges of code points. -/

abbrev CharacterRanges := List (Nat × Nat)

def CharacterRanges.covers (ranges : CharacterRanges) (value : Char) : Bool :=
  ranges.any fun range => range.1 ≤ value.toNat && value.toNat ≤ range.2

end ExampleBuild

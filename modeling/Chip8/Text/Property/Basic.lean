/-! # Ranges of code points

    A property of characters is given by the ranges of the code points that have it. -/

namespace Chip8.Text

/-- The code points from the first to the second, both included. -/
abbrev CodeRange := Nat × Nat

/-- Does the character lie in the range? -/
def CodeRange.covers (range : CodeRange) (c : Char) : Bool :=
  range.1 ≤ c.toNat && c.toNat ≤ range.2

/-- Does the character lie in one of the ranges? -/
def inRanges (ranges : List CodeRange) (c : Char) : Bool :=
  ranges.any fun range => range.covers c

end Chip8.Text

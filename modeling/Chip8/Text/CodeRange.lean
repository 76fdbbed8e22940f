/-!
Classes of code points given by ranges.
-/

namespace Chip8.Text

/-- A list of ranges of code points, both ends included. -/
abbrev CodeRanges := List (Nat × Nat)

def CodeRanges.holds (ranges : CodeRanges) (point : Nat) : Bool :=
  ranges.any fun (first, last) => first ≤ point && point ≤ last

end Chip8.Text

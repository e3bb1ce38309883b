/-!
# Sets of characters

A property of characters is given by the ranges of code points that have it.
-/

namespace GlyphBook

/-- Ranges of code points, both ends included. -/
abbrev CodeRanges := Array (Nat × Nat)

/-- Whether a character is in one of the ranges. -/
def CodeRanges.has (ranges : CodeRanges) (c : Char) : Bool :=
  ranges.any fun (low, high) => low ≤ c.toNat && c.toNat ≤ high

end GlyphBook

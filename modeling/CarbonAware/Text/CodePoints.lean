/-!
# Sets of characters

A class of characters is given by the ranges of its code points, as the tables of the Unicode standard give them.
-/

namespace CarbonAware.Text

/-- A set of characters: ranges of code points in rising order, both ends included. -/
structure CodePoints where
  ranges : List (Nat × Nat)

/-- Whether a character is in the set. -/
def CodePoints.contains (s : CodePoints) (c : Char) : Bool :=
  s.ranges.any fun (first, last) => first ≤ c.toNat && c.toNat ≤ last

end CarbonAware.Text

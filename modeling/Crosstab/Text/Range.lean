/-!
# Sets of characters

A set of characters is given as inclusive ranges of code points.

The tables behind `strip`, `upper`, `lower`, `isdigit` and `isprintable` are such sets.
-/

namespace Crosstab.Text

/-- The code points from `first` to `last`, both included. -/
structure CodeRange where
  first : Nat
  last : Nat
  deriving Repr, DecidableEq

namespace CodeRange

/-- Whether the code point lies in the range. -/
def contains (r : CodeRange) (n : Nat) : Bool :=
  r.first ≤ n && n ≤ r.last

end CodeRange

/-- Whether the character lies in one of the ranges. -/
def inRanges (ranges : List CodeRange) (c : Char) : Bool :=
  ranges.any (·.contains c.toNat)

end Crosstab.Text

import Crosstab.Value.Arithmetic
import Crosstab.Value.Sorted

/-!
# The median

The median of a list of values is the middle one of the sorted list, or half of the sum of the two
in the middle. A value counts as often as it occurs.

Models `median`.
-/

namespace Crosstab.View

open Number

/-- The median as a binary number; none of no values. -/
def median (vs : List Value) : Outcome (Option Binary64) := do
  if vs.isEmpty then return none
  let sorted ← Value.sorted vs
  let middle := sorted.length / 2
  let at_ (i : Nat) : Value := sorted[i]?.getD .null
  let value ←
    if sorted.length % 2 == 1 then pure (at_ middle)
    else do (← (at_ (middle - 1)).plus (at_ middle)).dividedBy (.int 2)
  return some (← value.toReal)

end Crosstab.View

import Crosstab.Number.Notation

/-!
# Quantities

A quantity is whole or binary; quantities are compared by the number they are.

Models `Number`, which the bounds of a `TimeWindow` are.
-/

namespace Crosstab.Number

/-- A whole or a binary number. -/
inductive Quantity where
  | whole (n : Int)
  | binary (x : Binary64)
  deriving Repr, DecidableEq

namespace Quantity

/-- The place of the number in the order; none for what is not a number. -/
def rank? : Quantity → Option Binary64.Rank
  | .whole n => some (Binary64.intRank n)
  | .binary x => x.rank?

/-- The first number is less than the second. -/
def lt (a b : Quantity) : Bool :=
  match a.rank?, b.rank? with
  | some x, some y => x.lt y
  | _, _ => false

/-- The number as text. -/
def text : Quantity → String
  | .whole n => intText n
  | .binary x => x.text

end Quantity

end Crosstab.Number

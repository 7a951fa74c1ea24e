import Crosstab.Sorting.Runs
import Crosstab.Value.Order

/-!
# Sorted values

Values are sorted if they compare with one another. Where every two elements of a list are in order
or equal it has one sorted form that keeps equal elements as they come. Not a number is neither
before nor after anything, so a list that holds it has no such form; then the order is that of
sorting by runs.

Models `sorted`.
-/

namespace Crosstab

/-- The list sorted by a strict order; `ordered` tells whether an element is in order with every
other. -/
def sortedBy {α : Type} (ordered : α → Bool) (lt : α → α → Bool) (xs : List α) : List α :=
  if xs.all ordered then xs.mergeSort fun a b => !lt b a else Sorting.sortByRuns lt xs

namespace Value

/-- The value is in order with every other of its kind; a list need not be, because of its
items. -/
def isOrdered (v : Value) : Bool :=
  match v with
  | .real x => !x.isNaN
  | .list _ => false
  | _ => true

/-- Whether the values compare with one another, that is each with the first. -/
def comparable : List Value → Bool
  | [] | [_] => true
  | v :: rest => rest.all fun w => (less? w v).isSome

/-- The values in order, if they compare with one another. -/
def sorted (vs : List Value) : Outcome (List Value) :=
  if comparable vs then .ok (sortedBy isOrdered (fun v w => (less? v w).getD false) vs)
  else mismatch .kind

end Value

end Crosstab

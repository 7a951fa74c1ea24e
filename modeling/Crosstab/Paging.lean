import Crosstab.Value.Convert
import Crosstab.Value.Order

/-!
# Pages

A page starts at an offset and has a limit, which is cut down to the largest that the settings
allow.

Models `page`.
-/

namespace Crosstab

/-- The first items of a list, as many as given; a negative number counts those that are left out
at the end. -/
def takeCount {α : Type} (n : Int) (xs : List α) : List α :=
  xs.take (if 0 ≤ n then n.toNat else (xs.length + n).toNat)

/-- The items of a list, no more than a bound if there is one. -/
def takeUpTo {α : Type} (bound? : Option Int) (xs : List α) : List α :=
  match bound? with
  | some n => takeCount n xs
  | none => xs

/-- The rows that are passed over and the most rows that are wanted after them. -/
structure Page where
  offset : Int
  limit : Int
  deriving Repr, DecidableEq

namespace Page

/-- The part of a list that lies on the page. -/
def slice {α : Type} (p : Page) (xs : List α) : List α :=
  (takeCount (p.offset + p.limit) xs).drop p.offset.toNat

/-- The offset and the limit that a request asks for, where the default and the largest limit may
be any values that compare with a whole number. -/
def bounds (offset limit default_ maxLimit : Value) : Outcome (Int × Value) := do
  let offset ← offset.toWhole "offset" 0 .invalidPagination
  let limit := ((← limit.toWhole? "limit" .invalidPagination).map Value.int).getD default_
  if offset < 0 then reject .invalidPagination "offset must be >= 0"
  if ← limit.isLess (.int 1) then reject .invalidPagination "limit must be >= 1"
  return (offset, if ← maxLimit.isLess limit then maxLimit else limit)

/-- Reads a page that a request asks for. -/
def ofRequest (offset limit : Value) (defaultLimit maxLimit : Int) : Outcome Page := do
  let offset ← offset.toWhole "offset" 0 .invalidPagination
  let limit ← limit.toWhole "limit" defaultLimit .invalidPagination
  if offset < 0 then reject .invalidPagination "offset must be >= 0"
  if limit < 1 then reject .invalidPagination "limit must be >= 1"
  return ⟨offset, min limit maxLimit⟩

end Page

end Crosstab

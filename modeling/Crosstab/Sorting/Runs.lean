import Crosstab.Number.Power
import Crosstab.Sorting.Merge

/-!
# Sorting by runs

A list is split into runs that are in order as they stand, or backwards, and the runs are merged.
A run that is too short is filled up by insertion. Which neighbours are merged first depends on
where their midpoints lie in the list: the boundary of two runs has the power at which the binary
fractions of the midpoints come apart, and a boundary of a high power is merged before one of a low
power.

The result is stable. It is defined by the comparisons alone, so that also of elements that do not
compare consistently there is one well-defined order.

Models `sort` of lists.
-/

namespace Crosstab.Sorting

open Number

variable {α : Type}

/-! ## Finding a run -/

/-- The elements at the start of the rest that continue a run from the last one, and those after
it; a descending run falls at every step, an ascending one never does. -/
def splitRun (lt : α → α → Bool) (descending : Bool) (last : α) : List α → List α × List α
  | [] => ([], [])
  | x :: xs =>
    if lt x last == descending then
      let (run, rest) := splitRun lt descending x xs
      (x :: run, rest)
    else ([], x :: xs)

/-- The run at the start of a list, in order, and the elements after it. -/
def takeRun (lt : α → α → Bool) : List α → List α × List α
  | x :: y :: rest =>
    let descending := lt y x
    let (run, later) := splitRun lt descending y rest
    let found := x :: y :: run
    (if descending then found.reverse else found, later)
  | xs => (xs, [])

/-! ## Filling up a run -/

/-- Inserts an element into a run, after all that it does not come before. -/
def insertInto (lt : α → α → Bool) (xs : List α) (x : α) : List α :=
  let elements := xs.toArray
  let at_ := place (fun i => elements[i]?.any (lt x ·)) xs.length 0 xs.length
  xs.take at_ ++ x :: xs.drop at_

/-- The least length of a run in a list of the given length: all of a short list, otherwise between
32 and 64 so that a power of two of such runs, or just less, makes up the list. -/
def leastLength (length : Nat) : Nat :=
  let share := twoTo (length.log2 - 5)
  (length + share - 1) / share

/-- The run at the start of a list, filled up to the least length, and the elements after it. -/
def takeFilled (lt : α → α → Bool) (least : Nat) (xs : List α) : List α × List α :=
  let (run, later) := takeRun lt xs
  let missing := least - run.length
  ((later.take missing).foldl (insertInto lt) run, later.drop missing)

/-! ## Merging runs -/

/-- A run among others. -/
structure Run (α : Type) where
  /-- The place of its first element in the list. -/
  start : Nat
  elements : List α
  /-- The power of the boundary with the next run. -/
  power : Nat

namespace Run

/-- The number of elements. -/
def length (r : Run α) : Nat :=
  r.elements.length

/-- The power of the boundary of two runs of a list of `total` elements: the first binary place in
which their midpoints, as fractions of the list, differ. -/
def boundaryPower (total start length nextLength : Nat) : Nat :=
  let middle := 2 * start + length
  let nextMiddle := middle + length + nextLength
  let differs (k : Nat) : Bool := twoTo k * middle / total != twoTo k * nextMiddle / total
  ((List.range (total.log2 + 1)).find? differs).getD total.log2 + 1

/-- The run of a run and the one before it. -/
def mergeWith (lt : α → α → Bool) (patience : Nat) (before after : Run α) : Run α × Nat :=
  let (elements, patience) := mergeRuns lt patience before.elements after.elements
  ({ before with elements }, patience)

/-- Merges a run with those before it whose boundaries have a higher power than the given one, the
next one first. -/
def settle (lt : α → α → Bool) (power patience : Nat) (r : Run α) :
    List (Run α) → List (Run α) × Nat
  | [] => ([{ r with power }], patience)
  | before :: rest =>
    if power < before.power then
      let (merged, patience) := mergeWith lt patience before r
      settle lt power patience merged rest
    else ({ r with power } :: before :: rest, patience)

/-- Adds a run of the given elements after the others, of which the last one comes first. -/
def push (lt : α → α → Bool) (total patience : Nat) (elements : List α) :
    List (Run α) → List (Run α) × Nat
  | [] => ([⟨0, elements, 0⟩], patience)
  | last :: rest =>
    let power := boundaryPower total last.start last.length elements.length
    let (settled, patience) := settle lt power patience last rest
    (⟨last.start + last.length, elements, 0⟩ :: settled, patience)

/-- Merges all runs, of which the last one comes first: always the last two, unless the third last
is shorter than the last. Each step leaves a run less, so their number is enough as fuel. -/
def collapse (lt : α → α → Bool) : Nat → Nat → List (Run α) → List α
  | _, _, [] => []
  | _, _, [r] => r.elements
  | 0, _, runs => runs.reverse.flatMap (·.elements)
  | fuel + 1, patience, last :: before :: rest =>
    match rest with
    | third :: others =>
      if third.length < last.length then
        let (merged, patience) := mergeWith lt patience third before
        collapse lt fuel patience (last :: merged :: others)
      else
        let (merged, patience) := mergeWith lt patience before last
        collapse lt fuel patience (merged :: rest)
    | [] => (mergeWith lt patience before last).1.elements

end Run

/-! ## Sorting -/

/-- How often a run has to win in the first merge until it is searched. -/
def firstPatience : Nat := Merge.payingLength

/-- Splits a list into runs, with at least one element each, and merges them. -/
def sortFrom (lt : α → α → Bool) (total least : Nat) :
    Nat → Nat → List (Run α) → List α → List α
  | fuel + 1, patience, runs, x :: xs =>
    let (run, later) := takeFilled lt least (x :: xs)
    let (runs, patience) := Run.push lt total patience run runs
    sortFrom lt total least fuel patience runs later
  | _, patience, runs, _ => Run.collapse lt runs.length patience runs

/-- The list sorted by a strict order. -/
def sortByRuns (lt : α → α → Bool) (xs : List α) : List α :=
  sortFrom lt xs.length (leastLength xs.length) xs.length firstPatience [] xs

end Crosstab.Sorting

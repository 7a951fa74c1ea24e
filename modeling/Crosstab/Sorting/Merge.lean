import Crosstab.Sorting.Search

/-!
# Merging two runs

Two neighbouring runs are merged into one. What is in place already stays: the first elements of the
first run and the last ones of the second. The rest is merged from that end where the shorter run
is, one element at a time; a run that wins often enough is searched for all elements that go before
the next one of the other, as long as such searches pay. How often is often enough depends on how
the searches paid so far, and is handed on from merge to merge as the patience.

An element of the second run goes first only if it is less than that of the first, so equal elements
keep their order.

Models the merging that `sort` does.
-/

namespace Crosstab.Sorting

/-- The end of two runs at which their merge starts. -/
inductive Direction where
  /-- The first elements go first. -/
  | forward
  /-- The last elements go first. -/
  | backward
  deriving Repr, DecidableEq

/-- The number of elements of a list, of which the next ones come first, up to the place that a test
finds in it; `holds` holds of the elements behind the place in the order of the run. -/
def Direction.countBefore {α : Type} (d : Direction) (holds : α → Bool) (xs : List α) : Nat :=
  let elements := xs.toArray
  let size := elements.size
  match d with
  | .forward => placeNear (fun i => elements[i]?.any holds) size 0
  | .backward => size - placeNear (fun i => elements[size - 1 - i]?.any holds) size (size - 1)

/-! ## What is merged -/

/-- A merge under way. -/
structure Merge (α : Type) where
  /-- What is left of the first run, the next element first. -/
  first : List α
  /-- What is left of the second run, the next element first. -/
  second : List α
  /-- The elements that have been taken, the last one first. -/
  taken : List α

namespace Merge

variable {α : Type}

/-- The merged run once at most one element of the shorter run, or none of the other, is left; the
merge otherwise. One that is left goes to the end of the other run. -/
def going (d : Direction) (m : Merge α) : Except (List α) (Merge α) :=
  match d, m.first, m.second with
  | .forward, [], ys => .error (m.taken.reverse ++ ys)
  | .forward, xs, [] => .error (m.taken.reverse ++ xs)
  | .forward, [x], ys => .error (m.taken.reverse ++ ys ++ [x])
  | .backward, [], ys => .error (ys.reverse ++ m.taken)
  | .backward, xs, [] => .error (xs.reverse ++ m.taken)
  | .backward, xs, [y] => .error (y :: xs.reverse ++ m.taken)
  | _, _, _ => .ok m

/-- Takes elements of the first run. -/
def takeFirst (n : Nat) (m : Merge α) : Merge α :=
  { m with first := m.first.drop n, taken := (m.first.take n).reverse ++ m.taken }

/-- Takes elements of the second run. -/
def takeSecond (n : Nat) (m : Merge α) : Merge α :=
  { m with second := m.second.drop n, taken := (m.second.take n).reverse ++ m.taken }

/-- Whether the next element is one of the second run. -/
def secondIsNext (d : Direction) (lt : α → α → Bool) (m : Merge α) : Bool :=
  match m.first, m.second with
  | x :: _, y :: _ => lt y x == (d == .forward)
  | _, _ => false

/-- The number of elements of the first run that go before the next one of the second. -/
def firstRunLength (d : Direction) (lt : α → α → Bool) (m : Merge α) : Nat :=
  match m.second with
  | y :: _ => d.countBefore (lt y ·) m.first
  | [] => 0

/-- The number of elements of the second run that go before the next one of the first. -/
def secondRunLength (d : Direction) (lt : α → α → Bool) (m : Merge α) : Nat :=
  match m.first with
  | x :: _ => d.countBefore (fun y => !lt y x) m.second
  | [] => 0

/-! ## Searching rounds -/

/-- The number of elements at once that make a search pay. -/
def payingLength : Nat := 7

/-- A round of searches in both runs, and whether one of them paid. -/
def searchRound (d : Direction) (lt : α → α → Bool) (m : Merge α) :
    Except (List α) (Merge α × Bool) := do
  let n := m.firstRunLength d lt
  let m ← (m.takeFirst n).going d
  let m ← (m.takeSecond 1).going d
  let k := m.secondRunLength d lt
  let m ← (m.takeSecond k).going d
  let m ← (m.takeFirst 1).going d
  return (m, payingLength ≤ n || payingLength ≤ k)

/-- How a merge goes on. -/
inductive Pace where
  /-- One element at a time; how many of the first and of the second run came last in a row. -/
  | single (firsts seconds : Nat)
  /-- By searches, `again` after one that paid. -/
  | search (again : Bool)

/-- Merges what is left with the given patience; gives the merged run and the patience that is
left. Each step takes an element, so their number is enough as fuel. -/
def run (d : Direction) (lt : α → α → Bool) : Nat → Pace → Nat → Merge α → List α × Nat
  | 0, _, patience, m => (m.taken, patience)
  | fuel + 1, .single firsts seconds, patience, m =>
    let fromSecond := m.secondIsNext d lt
    let next := if fromSecond then m.takeSecond 1 else m.takeFirst 1
    match next.going d with
    | .error merged => (merged, patience)
    | .ok m =>
      let firsts := if fromSecond then 0 else firsts + 1
      let seconds := if fromSecond then seconds + 1 else 0
      if patience ≤ max firsts seconds then run d lt fuel (.search false) patience m
      else run d lt fuel (.single firsts seconds) patience m
  | fuel + 1, .search again, patience, m =>
    let patience := if again then max 1 (patience - 1) else patience
    match m.searchRound d lt with
    | .error merged => (merged, patience)
    | .ok (m, true) => run d lt fuel (.search true) patience m
    | .ok (m, false) => run d lt fuel (.single 0 0) (patience + 1) m

/-- Starts a merge with the element that is known to come first. -/
def start (d : Direction) (lt : α → α → Bool) (patience : Nat) (xs ys : List α) : List α × Nat :=
  let m : Merge α :=
    match d with
    | .forward => takeSecond 1 ⟨xs, ys, []⟩
    | .backward => takeFirst 1 ⟨xs.reverse, ys.reverse, []⟩
  match m.going d with
  | .error merged => (merged, patience)
  | .ok m => run d lt (xs.length + ys.length) (.single 0 0) patience m

end Merge

/-! ## Neighbouring runs -/

/-- Merges two neighbouring runs with the given patience; gives the patience that is left too. -/
def mergeRuns {α : Type} (lt : α → α → Bool) (patience : Nat) (xs ys : List α) : List α × Nat :=
  match ys.head?, xs.getLast? with
  | some y, some x =>
    let front := Direction.forward.countBefore (lt y ·) xs
    let back := Direction.backward.countBefore (fun z => !lt z x) ys.reverse
    let first := xs.drop front
    let second := ys.take (ys.length - back)
    if first.isEmpty || second.isEmpty then (xs ++ ys, patience)
    else
      let d := if first.length ≤ second.length then Direction.forward else .backward
      let (merged, patience) := Merge.start d lt patience first second
      (xs.take front ++ merged ++ ys.drop (ys.length - back), patience)
  | _, _ => (xs ++ ys, patience)

end Crosstab.Sorting

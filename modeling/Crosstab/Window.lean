import Crosstab.Number.Quantity
import Crosstab.Sql.Predicate
import Crosstab.Value.Convert

/-!
# Time windows

A window bounds a column of times in epoch seconds from one side or from both, with or without the
bounds themselves; a bound is a finite number, and the lower one is not above the upper one.

Models `TimeWindow` and `_epoch_value`.
-/

namespace Crosstab

open Number Sql Text

/-- Bounds in epoch seconds. -/
inductive Bounds where
  | from_ (low : Quantity)
  | to (high : Quantity)
  | within (low high : Quantity)
  deriving Repr, DecidableEq

/-- Bounds on a column of times, the layer's own column if none is named. -/
structure Window where
  bounds : Bounds
  field? : Option String
  inclusive : Bool
  deriving Repr, DecidableEq

namespace Window

/-- The number of a quantity as a value. -/
def quantityValue : Quantity → Value
  | .whole n => .int n
  | .binary x => .real x

/-- Reads a bound; null and an empty text leave that side open. -/
def bound? (name : String) (v : Value) : Outcome (Option Quantity) := do
  let finite (x : Binary64) : Outcome (Option Quantity) :=
    if x.isNaN || x.isInfinite then reject .invalidTimeWindow s!"{name} must be finite"
    else .ok (some (.binary x))
  match v with
  | .null => return none
  | .bool _ => reject .invalidTimeWindow s!"{name} must be a number"
  | .int n => return some (.whole n)
  | .real x => finite x
  | v =>
    if v == .text "" then return none
    match readReal (trim v.display) with
    | .ok x => finite x
    | .error _ => reject .invalidTimeWindow s!"{name} must be a number, got {v.shown}"

/-- The bounds of a window, of which there is at least one. -/
def boundsOf (from? to? : Option Quantity) : Outcome Bounds :=
  match from?, to? with
  | none, none => reject .invalidTimeWindow "fromEpoch or toEpoch is required"
  | some low, none => .ok (.from_ low)
  | none, some high => .ok (.to high)
  | some low, some high =>
    if high.lt low then
      reject .invalidTimeWindow s!"fromEpoch {low.text} is after toEpoch {high.text}"
    else .ok (.within low high)

/-- Reads the name of a window's column. -/
def fieldOf (v : Value) : Outcome (Option String) :=
  match v with
  | .null => .ok none
  | .text s => .ok (if isBlank s then none else some (trim s))
  | _ => reject .invalidTimeWindow "time.field must be a string"

/-- Reads whether a window holds its bounds. -/
def inclusiveOf (v : Value) : Outcome Bool :=
  match v with
  | .null => .ok true
  | .bool b => .ok b
  | _ => reject .invalidTimeWindow "time.inclusive must be a boolean"

/-- Reads the window of a request; null is none. -/
def ofRequest (v : Value) : Outcome (Option Window) := do
  match v with
  | .null => return none
  | .record _ =>
    let field? ← fieldOf (← v.get "field")
    let inclusive ← inclusiveOf (← v.get "inclusive")
    let from? ← bound? "fromEpoch" (← v.get "fromEpoch")
    let to? ← bound? "toEpoch" (← v.get "toEpoch")
    return some ⟨← boundsOf from? to?, field?, inclusive⟩
  | _ => reject .invalidTimeWindow "time must be a JSON object"

/-- The lower and the upper bound. -/
def limits (w : Window) : Option Quantity × Option Quantity :=
  match w.bounds with
  | .from_ low => (some low, none)
  | .to high => (none, some high)
  | .within low high => (some low, some high)

/-- The window as a record. -/
def toRecord (w : Window) : List (String × Value) :=
  let optional (q? : Option Quantity) : Value := (q?.map quantityValue).getD .null
  [("field", (w.field?.map Value.text).getD .null), ("fromEpoch", optional w.limits.1),
    ("toEpoch", optional w.limits.2), ("inclusive", .bool w.inclusive)]

/-- The condition that the times of a column lie in the window. -/
def predicate (column : String) (kind? : Option TemporalKind) (w : Window) : Predicate :=
  let subject := if kind?.isSome then Subject.asEpoch column else .stored column
  let compare (c : Comparison) (q : Quantity) : Predicate :=
    .atom (.compare subject c (quantityValue q))
  match w.bounds with
  | .from_ low => compare (if w.inclusive then .gte else .gt) low
  | .to high => compare (if w.inclusive then .lte else .lt) high
  | .within low high =>
    if w.inclusive then .atom (.between subject (quantityValue low) (quantityValue high))
    else .link (compare .gt low) .and (compare .lt high)

end Window

end Crosstab

import Crosstab.Failure
import Crosstab.Text.Surrogate
import Crosstab.Value.Basic

/-!
# Equality and order of values

Values are equal and ordered across kinds. Numbers of all kinds, truth values among them, compare by
the number they are; records compare without regard to the order of their members; a date never
equals a moment, nor a moment with an offset one without. What is not a number equals nothing,
itself included.

Models `==`, `<` and `in` on what rows hold.
-/

namespace Crosstab

open Number Calendar

/-- An exact extended number: infinite, or a quotient of whole numbers. -/
inductive Exact where
  | below
  | ratio (num : Int) (den : Nat)
  | above
  deriving Repr

namespace Exact

/-- The exact value of a binary number; none for what is not a number. -/
def ofBinary64? : Binary64 → Option Exact
  | .nan => none
  | .infinite s => some (if s then .below else .above)
  | .finite s u => some (.ratio (Binary64.signed s u) Binary64.one)

/-- The exact value of a decimal. -/
def ofDecimal (d : Decimal) : Exact :=
  if 0 ≤ d.exponent then
    .ratio (Binary64.signed d.negative (d.coefficient * tenTo d.exponent.toNat)) 1
  else .ratio (Binary64.signed d.negative d.coefficient) (tenTo (-d.exponent).toNat)

/-- The strict order of exact numbers. -/
def lt : Exact → Exact → Bool
  | .below, .below => false
  | .below, _ => true
  | .ratio _ _, .below => false
  | .ratio a b, .ratio c d => a * d < c * b
  | .ratio _ _, .above => true
  | .above, _ => false

/-- Equality of exact numbers. -/
def eq : Exact → Exact → Bool
  | .below, .below => true
  | .ratio a b, .ratio c d => a * d == c * b
  | .above, .above => true
  | _, _ => false

end Exact

/-- A whole number for a truth value. -/
def bit (b : Bool) : Int :=
  if b then 1 else 0

namespace Value

/-- Whether the value is a number of any kind. -/
def isNumber : Value → Bool
  | .bool _ | .int _ | .real _ | .decimal _ => true
  | _ => false

/-- The exact number that a value is, if it is one. -/
def measure? : Value → Option Exact
  | .bool b => some (.ratio (bit b) 1)
  | .int n => some (.ratio n 1)
  | .real x => Exact.ofBinary64? x
  | .decimal d => some (Exact.ofDecimal d)
  | _ => none

/-- Equality of moments: with offsets on both sides the instants count, with none the readings
of calendar and clock. -/
def equalMoments (a b : Moment) : Bool :=
  a.offset?.isSome == b.offset?.isSome && a.epochMicros == b.epochMicros

mutual

/-- Equality of values across kinds. -/
def equals : Value → Value → Bool
  | .null, .null => true
  | .text s, .text t => s == t
  | .list xs, .list ys => equalItems xs ys
  | .record xs, .record ys => xs.length == ys.length && equalMembers xs ys
  | .date a, .date b => a == b
  | .moment a, .moment b => equalMoments a b
  | v, w =>
    match v.measure?, w.measure? with
    | some x, some y => x.eq y
    | _, _ => false

/-- Equality of lists of values, item by item. -/
def equalItems : List Value → List Value → Bool
  | [], [] => true
  | x :: xs, y :: ys => equals x y && equalItems xs ys
  | _, _ => false

/-- Whether the other members have an equal value for every key. -/
def equalMembers : List (String × Value) → List (String × Value) → Bool
  | [], _ => true
  | (k, x) :: xs, ys =>
    (match valueOf? k ys with
      | some y => equals x y
      | none => false) && equalMembers xs ys

end

/-- Whether an equal value is among the given ones. -/
def isIn (v : Value) (ws : List Value) : Bool :=
  ws.any (equals · v)

/-- The value may be a key: lists and records may not. -/
def isKey : Value → Bool
  | .list _ | .record _ => false
  | _ => true

/-! ## Order -/

mutual

/-- Whether the first value is less than the second; none if the kinds do not compare. -/
def less? : Value → Value → Option Bool
  | .text s, .text t => some (Text.Surrogate.textLess s t)
  | .list xs, .list ys => lessItems? xs ys
  | .date a, .date b => some (a.ordinal < b.ordinal)
  | .moment a, .moment b =>
    if a.offset?.isSome == b.offset?.isSome then some (a.epochMicros < b.epochMicros) else none
  | v, w =>
    if v.isNumber && w.isNumber then
      match v.measure?, w.measure? with
      | some x, some y => some (x.lt y)
      | _, _ => some false
    else none

/-- The order of lists: the first items that differ decide. -/
def lessItems? : List Value → List Value → Option Bool
  | [], [] => some false
  | [], _ :: _ => some true
  | _ :: _, [] => some false
  | x :: xs, y :: ys => if equals x y then lessItems? xs ys else less? x y

end

/-- Whether the first value is less than the second, with which it must compare. -/
def isLess (v w : Value) : Outcome Bool :=
  match less? v w with
  | some b => .ok b
  | none => mismatch .kind

end Value

end Crosstab

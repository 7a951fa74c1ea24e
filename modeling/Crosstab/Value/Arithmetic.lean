import Crosstab.Value.Convert

/-!
# Arithmetic on values

Values that are numbers are added, subtracted, multiplied and divided. Truth values count as whole
numbers; a whole number next to a binary one becomes binary, next to a decimal one decimal, and
binary and decimal numbers do not go together. The quotient of whole numbers is the binary number
nearest to it. Points of time of one kind have a distance too, and distances have a ratio.

Models `+`, `-`, `*` and `/` on what rows hold.
-/

namespace Crosstab.Value

open Number

/-- Two numbers of one kind. -/
inductive Operands where
  | whole (a b : Int)
  | binary (a b : Binary64)
  | decimal (a b : Decimal)

/-- Two values as numbers of one kind. -/
def operands : Value → Value → Outcome Operands
  | .bool a, w => operandsOf (bitOf a) w
  | .int a, w => operandsOf a w
  | .real a, .bool b => .ok (.binary a (Binary64.ofNat (if b then 1 else 0)))
  | .real a, .int b => do return .binary a (← (Value.int b).toReal)
  | .real a, .real b => .ok (.binary a b)
  | .decimal a, .bool b => .ok (.decimal a (.ofInt (bitOf b)))
  | .decimal a, .int b => .ok (.decimal a (.ofInt b))
  | .decimal a, .decimal b => .ok (.decimal a b)
  | _, _ => mismatch .kind
where
  /-- A truth value as a whole number. -/
  bitOf (b : Bool) : Int := if b then 1 else 0
  /-- A whole number next to a value. -/
  operandsOf (a : Int) : Value → Outcome Operands
    | .bool b => .ok (.whole a (bitOf b))
    | .int b => .ok (.whole a b)
    | .real b => do return .binary (← (Value.int a).toReal) b
    | .decimal b => .ok (.decimal (.ofInt a) b)
    | _ => mismatch .kind

/-- The sum. -/
def plus (v w : Value) : Outcome Value := do
  match ← operands v w with
  | .whole a b => return .int (a + b)
  | .binary a b => return .real (a.add b)
  | .decimal a b => return .decimal (a.add b)

/-- The difference. -/
def minus (v w : Value) : Outcome Value := do
  match ← operands v w with
  | .whole a b => return .int (a - b)
  | .binary a b => return .real (a.sub b)
  | .decimal a b => return .decimal (a.add b.neg)

/-- The product. -/
def times (v w : Value) : Outcome Value := do
  match ← operands v w with
  | .whole a b => return .int (a * b)
  | .binary a b => return .real (a.mul b)
  | .decimal a b => return .decimal (a.mul b)

/-- The quotient of whole numbers; it must not be too large. -/
def wholeQuotient (a b : Int) : Outcome Value :=
  if b == 0 then mismatch .zeroDivisor
  else
    let q := Binary64.ofRatio (decide (a < 0) != decide (b < 0)) a.natAbs b.natAbs
    if q.isInfinite then mismatch .overflow else .ok (.real q)

/-- The quotient by a number that is not zero. -/
def dividedBy (v w : Value) : Outcome Value := do
  match ← operands v w with
  | .whole a b => wholeQuotient a b
  | .binary a b => if b.isZero then mismatch .zeroDivisor else return .real (a.div b)
  | .decimal a b => if b.isZero then mismatch .zeroDivisor else return .decimal (a.div b)

/-! ## Distances -/

/-- How far a value is from another. -/
inductive Distance where
  | number (difference : Value)
  /-- The time between two dates or two moments. -/
  | duration (micros : Int)

/-- The distance of a value from another: between dates, between moments that both have an offset
or both have none, or between numbers. -/
def distanceFrom (w v : Value) : Outcome Distance :=
  match v, w with
  | .date a, .date b => .ok (.duration ((a.epochDays - b.epochDays) * Calendar.dayMicros))
  | .moment a, .moment b =>
    if a.offset?.isSome == b.offset?.isSome then .ok (.duration (a.epochMicros - b.epochMicros))
    else mismatch .kind
  | v, w => (v.minus w).map .number

/-- The ratio of a distance to another one of its kind. -/
def Distance.ratioTo : Distance → Distance → Outcome Value
  | .number x, .number y => x.dividedBy y
  | .duration a, .duration b => wholeQuotient a b
  | _, _ => mismatch .kind

end Crosstab.Value

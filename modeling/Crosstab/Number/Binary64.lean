import Crosstab.Number.Power

/-!
# Binary numbers of 64 bits

Every finite binary floating-point number of 64 bits is a whole number of the smallest unit, 2⁻¹⁰⁷⁴,
so a number is held as its sign and that count, and all arithmetic is exact arithmetic on counts
followed by one rounding. `round` is that rounding: to the nearest number with 53 significant bits,
a tie to the even one, and beyond the largest number to infinity.

Models the arithmetic of `float`.
-/

namespace Crosstab.Number

/-- A binary floating-point number: not a number, an infinity, or a signed count of units of
2⁻¹⁰⁷⁴. -/
inductive Binary64 where
  | nan
  | infinite (negative : Bool)
  | finite (negative : Bool) (units : Nat)
  deriving Repr, DecidableEq, Inhabited

namespace Binary64

/-- The binary places of a unit. -/
def places : Nat := 1074

/-- The units that make up one. -/
def one : Nat := twoTo places

/-- The count of units from which on a number is infinite. -/
def overflow : Nat := twoTo (1024 + places)

/-! ## Rounding -/

/-- The quotient rounded to the nearest whole number, a tie to the even one. -/
def divRound (num den : Nat) : Nat :=
  let q := num / den
  let r := num % den
  if 2 * r < den then q
  else if den < 2 * r then q + 1
  else if q % 2 == 0 then q else q + 1

/-- The distance between neighbouring numbers around so many units: 53 bits are kept. -/
def spacing (units : Nat) : Nat :=
  twoTo (units.log2 - 52)

/-- The units of the number nearest to the quotient, before overflow. -/
def roundUnits (num den : Nat) : Nat :=
  let step := spacing (num / den)
  divRound num (den * step) * step

/-- The number nearest to the quotient of units. -/
def round (negative : Bool) (num den : Nat) : Binary64 :=
  let units := roundUnits num den
  if units < overflow then .finite negative units else .infinite negative

/-- The number nearest to a quotient of whole numbers. -/
def ofRatio (negative : Bool) (num den : Nat) : Binary64 :=
  round negative (num * one) den

/-- The number if it is finite. -/
def finite? : Binary64 → Option Binary64
  | .finite s u => some (.finite s u)
  | _ => none

/-- The number nearest to a whole number, unless it is too large. -/
def ofInt? (n : Int) : Option Binary64 :=
  (round (n < 0) (n.natAbs * one) 1).finite?

/-! ## Parts -/

/-- The number is not a number. -/
def isNaN : Binary64 → Bool
  | .nan => true
  | _ => false

/-- The number is an infinity. -/
def isInfinite : Binary64 → Bool
  | .infinite _ => true
  | _ => false

/-- The number is zero, of either sign. -/
def isZero : Binary64 → Bool
  | .finite _ 0 => true
  | _ => false

/-- The number carries a minus sign. -/
def isNegative : Binary64 → Bool
  | .nan => false
  | .infinite s => s
  | .finite s _ => s

/-- The number is finite and whole. -/
def isWhole : Binary64 → Bool
  | .finite _ u => u % one == 0
  | _ => false

/-- A count with a sign as a signed number of units. -/
def signed (negative : Bool) (units : Nat) : Int :=
  if negative then -(units : Int) else units

/-- The whole part towards zero; none for what is not finite. -/
def truncate? : Binary64 → Option Int
  | .finite s u => some (signed s (u / one))
  | _ => none

/-- The greatest whole number not above; none for what is not finite. -/
def floor? : Binary64 → Option Int
  | .finite s u => some (Int.fdiv (signed s u) one)
  | _ => none

/-! ## Order -/

/-- A number as a whole count of units with the infinities beyond all of them. -/
inductive Rank where
  | below
  | at_ (units : Int)
  | above
  deriving Repr, DecidableEq

/-- The place of a number in the order; none for what is not a number. -/
def rank? : Binary64 → Option Rank
  | .nan => none
  | .infinite true => some .below
  | .infinite false => some .above
  | .finite s u => some (.at_ (signed s u))

/-- The place of a whole number in the order. -/
def intRank (n : Int) : Rank :=
  .at_ (n * one)

/-- The strict order of places. -/
def Rank.lt : Rank → Rank → Bool
  | .below, .below => false
  | .below, _ => true
  | .at_ _, .below => false
  | .at_ a, .at_ b => a < b
  | .at_ _, .above => true
  | .above, _ => false

/-- The first number is less than the second; nothing is less than or above what is not a
number. -/
def lt (a b : Binary64) : Bool :=
  match a.rank?, b.rank? with
  | some x, some y => x.lt y
  | _, _ => false

/-- The numbers are equal: zeros are, and what is not a number equals nothing. -/
def eq (a b : Binary64) : Bool :=
  match a.rank?, b.rank? with
  | some x, some y => x == y
  | _, _ => false

/-- The first number is less than or equal to the second. -/
def le (a b : Binary64) : Bool :=
  a.lt b || a.eq b

/-! ## Arithmetic -/

/-- The number with the other sign. -/
def neg : Binary64 → Binary64
  | .nan => .nan
  | .infinite s => .infinite (!s)
  | .finite s u => .finite (!s) u

/-- The sum. A zero sum is negative only of negative zeros. -/
def add : Binary64 → Binary64 → Binary64
  | .nan, _ => .nan
  | _, .nan => .nan
  | .infinite s, .infinite t => if s == t then .infinite s else .nan
  | .infinite s, .finite _ _ => .infinite s
  | .finite _ _, .infinite t => .infinite t
  | .finite s u, .finite t v =>
    let sum := signed s u + signed t v
    if sum == 0 then .finite (s && t) 0 else round (sum < 0) sum.natAbs 1

/-- The difference. -/
def sub (a b : Binary64) : Binary64 :=
  a.add b.neg

/-- The product. -/
def mul : Binary64 → Binary64 → Binary64
  | .nan, _ => .nan
  | _, .nan => .nan
  | .infinite s, .infinite t => .infinite (s != t)
  | .infinite s, .finite t v => if v == 0 then .nan else .infinite (s != t)
  | .finite s u, .infinite t => if u == 0 then .nan else .infinite (s != t)
  | .finite s u, .finite t v => round (s != t) (u * v) one

/-- The quotient. A division by zero gives an infinity, of zero by zero no number. -/
def div : Binary64 → Binary64 → Binary64
  | .nan, _ => .nan
  | _, .nan => .nan
  | .infinite _, .infinite _ => .nan
  | .infinite s, .finite t _ => .infinite (s != t)
  | .finite s _, .infinite t => .finite (s != t) 0
  | .finite s u, .finite t v =>
    if v == 0 then if u == 0 then .nan else .infinite (s != t)
    else round (s != t) (u * one) v

/-- The number zero. -/
def zero : Binary64 := .finite false 0

/-- The whole number `n`, or infinity if it is too large. -/
def ofNat (n : Nat) : Binary64 :=
  round false (n * one) 1

end Binary64

end Crosstab.Number

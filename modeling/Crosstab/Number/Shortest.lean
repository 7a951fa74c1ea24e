import Crosstab.Number.Binary64

/-!
# The shortest decimal of a binary number

The shortest decimal of a binary number has the fewest digits that read back as the number, and of
those it is the one nearest to it. On a decimal grid only the two neighbours of the number can be
the nearest that reads back, so both are tried on the grids of one digit, two digits and so on. Of
two equally near ones the even one is taken.

Models the digits of `repr` of `float`.
-/

namespace Crosstab.Number

/-- A non-negative decimal: a coefficient times a power of ten. -/
structure Scaled where
  coefficient : Nat
  exponent : Int
  deriving Repr, DecidableEq

/-- The number of decimal digits of a whole number, one for zero. -/
def digitCount (n : Nat) : Nat :=
  (Nat.toDigits 10 n).length

namespace Scaled

/-- The decimal without trailing zeros in its coefficient, of which it has at most `fuel`. -/
def stripZeros : Nat → Scaled → Scaled
  | 0, d => d
  | fuel + 1, d =>
    if d.coefficient % 10 == 0 && d.coefficient != 0 then
      stripZeros fuel ⟨d.coefficient / 10, d.exponent + 1⟩
    else d

/-- The decimal without trailing zeros in its coefficient. -/
def normal (d : Scaled) : Scaled :=
  d.stripZeros (digitCount d.coefficient)

end Scaled

namespace Binary64

/-- The number nearest to a decimal. Exponents far outside of the range are not computed with. -/
def ofScaled (negative : Bool) (d : Scaled) : Binary64 :=
  if d.coefficient == 0 then .finite negative 0
  else
    let magnitude := d.exponent + digitCount d.coefficient
    if 310 < magnitude then .infinite negative
    else if magnitude < -400 then .finite negative 0
    else if 0 ≤ d.exponent then ofRatio negative (d.coefficient * tenTo d.exponent.toNat) 1
    else ofRatio negative d.coefficient (tenTo (-d.exponent).toNat)

/-- The exponent of the leading decimal digit of a positive count of units. -/
def decimalExponent (units : Nat) : Int :=
  (digitCount (units * tenTo 330 / one) : Int) - 331

/-- Whether the decimal reads back as the count of units. -/
def readsBack (units : Nat) (d : Scaled) : Bool :=
  ofScaled false d == .finite false units

/-- The neighbour of a count of units that reads back on the grid of so many digits, the nearer
one first and of two equally near ones the even one. -/
def onGrid? (units digits : Nat) : Option Scaled :=
  let exponent := decimalExponent units - digits + 1
  let num := if exponent < 0 then units * tenTo (-exponent).toNat else units
  let den := if exponent < 0 then one else one * tenTo exponent.toNat
  let low : Scaled := ⟨num / den, exponent⟩
  let high : Scaled := ⟨num / den + 1, exponent⟩
  let order := if divRound num den == num / den then [low, high] else [high, low]
  order.find? (readsBack units)

/-- The shortest decimal that reads back as the count of units; seventeen digits are always
enough. -/
def shortest (units : Nat) : Scaled :=
  if units == 0 then ⟨0, 0⟩
  else
    match (List.range 17).findSome? fun n => onGrid? units (n + 1) with
    | some d => d.normal
    | none => ⟨0, 0⟩

end Binary64

end Crosstab.Number

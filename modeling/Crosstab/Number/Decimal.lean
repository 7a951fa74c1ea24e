import Crosstab.Number.Notation

/-!
# Decimal numbers

A decimal number has a scale. `1.50` and `1.5` are equal numbers and different decimals: the scale
is kept, and written.

Models `Decimal` with 28 digits.
-/

namespace Crosstab.Number

/-- A decimal number: a signed coefficient times a power of ten. -/
structure Decimal where
  negative : Bool
  coefficient : Nat
  exponent : Int
  deriving Repr, DecidableEq

namespace Decimal

/-- The decimal without its sign. -/
def scaled (d : Decimal) : Scaled :=
  ⟨d.coefficient, d.exponent⟩

/-- The number is zero, of either sign and any scale. -/
def isZero (d : Decimal) : Bool :=
  d.coefficient == 0

/-- The decimal with all digits of its coefficient: positionally down to six zeros after the
point, otherwise with an exponent. -/
def text (d : Decimal) : String :=
  let ds := d.scaled.digits
  let point := d.exponent + ds.length
  let body :=
    if d.exponent ≤ 0 && -6 < point then
      if d.exponent == 0 then ds
      else if point ≤ 0 then '0' :: '.' :: (List.replicate (-point).toNat '0' ++ ds)
      else ds.take point.toNat ++ '.' :: ds.drop point.toNat
    else
      let e := point - 1
      let mantissa :=
        match ds with
        | c :: r :: rest => c :: '.' :: r :: rest
        | cs => cs
      if e == 0 then mantissa
      else mantissa ++ 'E' :: (if e < 0 then '-' else '+') :: Nat.toDigits 10 e.natAbs
  String.ofList (Binary64.withSign d.negative body)

/-- The binary number nearest to the decimal. -/
def toBinary64 (d : Decimal) : Binary64 :=
  Binary64.ofScaled d.negative d.scaled

/-- The whole part towards zero. -/
def truncate (d : Decimal) : Int :=
  let n :=
    if 0 ≤ d.exponent then d.coefficient * tenTo d.exponent.toNat
    else d.coefficient / tenTo (-d.exponent).toNat
  if d.negative then -(n : Int) else n

/-! ## Arithmetic

Results are exact up to 28 significant digits and rounded to as many, a tie to the even digit. -/

/-- The significant digits of a result. -/
def precision : Nat := 28

/-- The decimal rounded to the digits of a result. -/
def rounded (d : Decimal) : Decimal :=
  let extra := digitCount d.coefficient - precision
  { d with
    coefficient := Binary64.divRound d.coefficient (tenTo extra)
    exponent := d.exponent + extra }

/-- The coefficient at a smaller exponent, with the sign of the decimal. -/
def signedAt (exponent : Int) (d : Decimal) : Int :=
  Binary64.signed d.negative (d.coefficient * tenTo (d.exponent - exponent).toNat)

/-- The whole number as a decimal. -/
def ofInt (n : Int) : Decimal :=
  ⟨n < 0, n.natAbs, 0⟩

/-- The decimal with the other sign. -/
def neg (d : Decimal) : Decimal :=
  { d with negative := !d.negative }

/-- The sum; a sum of negative zeros is one. -/
def add (a b : Decimal) : Decimal :=
  let exponent := min a.exponent b.exponent
  let sum := a.signedAt exponent + b.signedAt exponent
  let negative := if sum == 0 then a.negative && b.negative else sum < 0
  rounded ⟨negative, sum.natAbs, exponent⟩

/-- The product. -/
def mul (a b : Decimal) : Decimal :=
  rounded ⟨a.negative != b.negative, a.coefficient * b.coefficient, a.exponent + b.exponent⟩

/-- The quotient by a decimal that is not zero. A digit more than is kept, and never a tie unless
the quotient is one, decide the rounding. -/
def div (a b : Decimal) : Decimal :=
  let shift := precision + 1 + digitCount b.coefficient - digitCount a.coefficient
  let num := a.coefficient * tenTo shift
  let quotient := num / b.coefficient
  let sticky := num % b.coefficient != 0 && quotient % 5 == 0
  rounded ⟨a.negative != b.negative, if sticky then quotient + 1 else quotient,
    a.exponent - b.exponent - shift⟩

end Decimal

end Crosstab.Number

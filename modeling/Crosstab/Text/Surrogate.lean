/-!
# Surrogates

JSON text names a character outside of the first plane by a pair of code units. A unit of such a
pair that stands alone names no character. It is kept as a stand-in from a plane in which no
character is assigned, and shown, ordered and written as the unit that it is.

Models what `loads` makes of escaped code units, and the order of texts.
-/

namespace Crosstab.Text.Surrogate

/-- The number is the first half of a pair of units. -/
def isHigh (n : Nat) : Bool := 0xD800 ≤ n && n ≤ 0xDBFF

/-- The number is the second half of a pair of units. -/
def isLow (n : Nat) : Bool := 0xDC00 ≤ n && n ≤ 0xDFFF

/-- The stand-in of the first of all halves. -/
def firstStandIn : Nat := 0xD0000

/-- The character of a unit; a half that stands alone gets its stand-in. -/
def ofUnit (n : Nat) : Char :=
  if isHigh n || isLow n then Char.ofNat (firstStandIn + (n - 0xD800)) else Char.ofNat n

/-- The character of both halves of a pair. -/
def ofPair (high low : Nat) : Char :=
  Char.ofNat (0x10000 + (high - 0xD800) * 0x400 + (low - 0xDC00))

/-- The number by which a character is shown and ordered: a stand-in goes by its half. -/
def code (c : Char) : Nat :=
  if firstStandIn ≤ c.toNat && c.toNat < firstStandIn + 0x800 then
    c.toNat - firstStandIn + 0xD800
  else c.toNat

/-- Whether the first text comes before the second one in the order of codes. -/
def textLess (s t : String) : Bool :=
  s.toList.map code < t.toList.map code

end Crosstab.Text.Surrogate

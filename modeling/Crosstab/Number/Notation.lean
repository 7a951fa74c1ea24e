import Crosstab.Number.Shortest

/-!
# The notation of numbers

A binary number is written with its shortest digits: positionally when the exponent of its leading
digit is at least -4 and below 16, and then always with a fraction; otherwise with an exponent of at
least two digits. Fixed places round the exact value, a tie to the even digit, and separate
thousands by commas.

Models `repr` of `float`, and its format with commas and two places.
-/

namespace Crosstab.Number

/-- A whole number in decimal. -/
def intText (n : Int) : String :=
  toString n

namespace Scaled

/-- The digits of the coefficient. -/
def digits (d : Scaled) : List Char :=
  Nat.toDigits 10 d.coefficient

/-- The exponent of the leading digit. -/
def leading (d : Scaled) : Int :=
  d.exponent + digitCount d.coefficient - 1

/-- The decimal written positionally, with at least one digit after the point. -/
def positional (d : Scaled) : List Char :=
  let ds := d.digits
  let point := d.exponent + ds.length
  if point ≤ 0 then '0' :: '.' :: (List.replicate (-point).toNat '0' ++ ds)
  else if (ds.length : Int) ≤ point then
    ds ++ List.replicate (point.toNat - ds.length) '0' ++ ['.', '0']
  else ds.take point.toNat ++ '.' :: ds.drop point.toNat

/-- An exponent with its sign and at least two digits. -/
def exponentText (e : Int) : List Char :=
  let ds := Nat.toDigits 10 e.natAbs
  (if e < 0 then '-' else '+') :: (List.replicate (2 - ds.length) '0' ++ ds)

/-- The decimal written with one digit before the point and an exponent. -/
def scientific (d : Scaled) : List Char :=
  let mantissa :=
    match d.digits with
    | [] => []
    | [c] => [c]
    | c :: rest => c :: '.' :: rest
  mantissa ++ 'e' :: exponentText d.leading

/-- The decimal written positionally for moderate exponents and with an exponent otherwise. -/
def text (d : Scaled) : List Char :=
  if d.coefficient == 0 then ['0', '.', '0']
  else if -4 ≤ d.leading && d.leading < 16 then d.positional
  else d.scientific

end Scaled

namespace Binary64

/-- A sign in front of digits. -/
def withSign (negative : Bool) (cs : List Char) : List Char :=
  if negative then '-' :: cs else cs

/-- The shortest text that reads back as the number. -/
def text : Binary64 → String
  | .nan => "nan"
  | .infinite s => if s then "-inf" else "inf"
  | .finite s u => String.ofList (withSign s (shortest u).text)

/-! ## Fixed places -/

/-- Digits with a comma before every third one from the right; the list is reversed. -/
def groupReversed : List Char → List Char
  | a :: b :: c :: d :: rest => a :: b :: c :: ',' :: groupReversed (d :: rest)
  | cs => cs

/-- A whole number with its thousands separated by commas. -/
def groupedText (n : Nat) : List Char :=
  (groupReversed (Nat.toDigits 10 n).reverse).reverse

/-- The number with so many digits after the point and its thousands separated by commas. -/
def fixedText (places_ : Nat) : Binary64 → String
  | .nan => "nan"
  | .infinite s => if s then "-inf" else "inf"
  | .finite s u =>
    let scaled := divRound (u * tenTo places_) one
    let fraction :=
      if places_ == 0 then []
      else
        let ds := Nat.toDigits 10 (scaled % tenTo places_)
        '.' :: (List.replicate (places_ - ds.length) '0' ++ ds)
    String.ofList (withSign s (groupedText (scaled / tenTo places_) ++ fraction))

end Binary64

end Crosstab.Number

import Crosstab.Number.Decimal
import Crosstab.Text.Blank
import Crosstab.Text.Digit
import Crosstab.Text.Case
import Crosstab.Text.Quoted

/-!
# Numerals

A numeral is the text of a number. It may stand between blanks, carry a sign, use the decimal digits
of any script and have single underscores between digits. A whole number is read and written with at
most 4300 digits. A binary number may also be spelled `inf`, `infinity` or `nan`, in any case, and
rounds to the nearest.

Models `int` and `float` of a text.
-/

namespace Crosstab.Number

open Crosstab.Text

/-- Why a text is not a numeral. -/
inductive NumeralError where
  /-- The text does not spell a whole number. -/
  | notWhole (text : String)
  /-- The text spells a whole number with too many digits. -/
  | tooLong (digits : Nat)
  /-- The text does not spell a binary number. -/
  | notReal (text : String)
  /-- A whole number has too many digits to be written. -/
  | tooWide
  deriving Repr, DecidableEq

/-- The most digits that a whole number is read or written with. -/
def maxDigits : Nat := 4300

/-- The error in words. A text that is no whole number is shown by the first 200 characters of
its quoted form. -/
def NumeralError.message : NumeralError → String
  | .notWhole text =>
    "invalid literal for int() with base 10: " ++ String.ofList ((quoted text).toList.take 200)
  | .tooLong digits =>
    s!"Exceeds the limit ({maxDigits} digits) for integer string conversion: value has " ++
      s!"{digits} digits; use sys.set_int_max_str_digits() to increase the limit"
  | .notReal text => "could not convert string to float: " ++ quoted text
  | .tooWide =>
    s!"Exceeds the limit ({maxDigits} digits) for integer string conversion; " ++
      "use sys.set_int_max_str_digits() to increase the limit"

/-! ## Characters of a numeral -/

/-- The plain form of a character in a numeral: a digit of any script becomes one of `0` to `9`,
and a blank outside of ASCII a space. -/
def plainChar (c : Char) : Char :=
  if c.toNat < 127 then c
  else if isBlankChar c then ' '
  else
    match decimalValue? c with
    | some d => Char.ofNat (48 + d)
    | none => '?'

/-- The blanks that may surround a numeral once its characters are plain. -/
def isPadding (c : Char) : Bool :=
  c == ' ' || ('\t' ≤ c && c ≤ '\r')

/-- The plain characters of a numeral without the blanks around it. -/
def plainChars (s : String) : List Char :=
  let cs := if s.toList.all (·.toNat < 128) then s.toList else s.toList.map plainChar
  dropAround isPadding cs

/-- Whether the character is one of `0` to `9`. -/
def isPlainDigit (c : Char) : Bool :=
  (asciiDigit? c).isSome

/-- Splits a sign off the characters; the flag tells a minus. -/
def splitSign : List Char → Bool × List Char
  | '-' :: cs => (true, cs)
  | '+' :: cs => (false, cs)
  | cs => (false, cs)

/-- The number that plain digits spell. -/
def digitsValue (cs : List Char) : Nat :=
  cs.foldl (fun n c => n * 10 + (asciiDigit? c).getD 0) 0

/-! ## Whole numbers -/

/-- Whether no underscore stands first, last or beside another. -/
def underscoresApart : List Char → Bool
  | [] => true
  | ['_'] => false
  | '_' :: '_' :: _ => false
  | _ :: rest => underscoresApart rest

/-- Reads a whole number. -/
def readInt (s : String) : Except NumeralError Int :=
  let (negative, body) := splitSign (plainChars s)
  let numeral := body.takeWhile fun c => isPlainDigit c || c == '_'
  let digits := numeral.filter isPlainDigit
  if numeral.head? == some '_' || !underscoresApart numeral then .error (.notWhole s)
  else if maxDigits < digits.length then .error (.tooLong digits.length)
  else if digits.isEmpty || numeral.length != body.length then .error (.notWhole s)
  else
    let n : Int := digitsValue digits
    .ok (if negative then -n else n)

/-- Whether the whole number has few enough digits to be written. -/
def isWritable (n : Int) : Bool :=
  n.natAbs < tenTo maxDigits

/-- Writes a whole number. -/
def writeInt (n : Int) : Except NumeralError String :=
  if isWritable n then .ok (intText n) else .error .tooWide

/-! ## Binary numbers -/

/-- Removes underscores that stand between digits; none if one stands elsewhere. -/
def dropUnderscores? (afterDigit : Bool) : List Char → Option (List Char)
  | [] => some []
  | '_' :: rest =>
    match rest with
    | c :: _ =>
      if afterDigit && isPlainDigit c then dropUnderscores? false rest else none
    | [] => none
  | c :: rest => (dropUnderscores? (isPlainDigit c) rest).map (c :: ·)

/-- The value of an exponent, `e` and a whole number; none if it is malformed. -/
def exponent? : List Char → Option Int
  | [] => some 0
  | c :: rest =>
    if c == 'e' || c == 'E' then
      let (negative, digits) := splitSign rest
      if !digits.isEmpty && digits.all isPlainDigit then
        let n : Int := digitsValue digits
        some (if negative then -n else n)
      else none
    else none

/-- The decimal that unsigned characters spell: digits with an optional point among or beside
them, and an optional exponent. -/
def scaled? (cs : List Char) : Option Scaled :=
  let whole := cs.takeWhile isPlainDigit
  let afterWhole := cs.dropWhile isPlainDigit
  let (fraction, tail) :=
    match afterWhole with
    | '.' :: rest => (rest.takeWhile isPlainDigit, rest.dropWhile isPlainDigit)
    | rest => ([], rest)
  if whole.isEmpty && fraction.isEmpty then none
  else
    (exponent? tail).map fun e =>
      ⟨digitsValue (whole ++ fraction), e - fraction.length⟩

/-- The binary number that plain unsigned characters spell. -/
def unsignedReal? (negative : Bool) (cs : List Char) : Option Binary64 :=
  let word := String.ofList (cs.map Char.toLower)
  if word == "nan" then some .nan
  else if word == "inf" || word == "infinity" then some (.infinite negative)
  else (scaled? cs).map (Binary64.ofScaled negative)

/-- Reads a binary number. -/
def readReal (s : String) : Except NumeralError Binary64 :=
  let number := do
    let cs ← dropUnderscores? false (plainChars s)
    let (negative, body) := splitSign cs
    unsignedReal? negative body
  match number with
  | some x => .ok x
  | none => .error (.notReal s)

/-! ## Decimals -/

/-- Reads a decimal number. -/
def readDecimal? (s : String) : Option Decimal :=
  let (negative, body) := splitSign (plainChars s)
  (scaled? body).map fun d => ⟨negative, d.coefficient, d.exponent⟩

end Crosstab.Number

import Crosstab.Failure
import Crosstab.Text.Digit
import Crosstab.Value.Display

/-!
# Values as numbers

A whole number, a binary number, a truth value, a decimal and a text that spells a number can be
turned; other kinds cannot.

Models `float`, `int` and `bool` of a value, `parse_int` and `_number`.
-/

namespace Crosstab.Value

open Number Text

/-- The number as a binary one; a whole number must not be too large. -/
def toReal : Value → Outcome Binary64
  | .bool b => .ok (if b then Binary64.ofNat 1 else .zero)
  | .int n => (Binary64.ofInt? n).elim (mismatch .overflow) .ok
  | .real x => .ok x
  | .text s => (readReal s).mapError fun e => .unusable (.numeral e)
  | .decimal d => .ok d.toBinary64
  | .null | .list _ | .record _ | .date _ | .moment _ => mismatch .kind

/-- The whole part of a binary number towards zero. -/
def truncate (x : Binary64) : Outcome Int :=
  match x with
  | .nan => .error (.unusable .notANumber)
  | .infinite _ => mismatch .overflow
  | .finite s u => .ok (Binary64.signed s (u / Binary64.one))

/-- The number as a whole one, cut off towards zero. -/
def toInt : Value → Outcome Int
  | .bool b => .ok (if b then 1 else 0)
  | .int n => .ok n
  | .real x => truncate x
  | .text s => (readInt s).mapError fun e => .unusable (.numeral e)
  | .decimal d => .ok d.truncate
  | .null | .list _ | .record _ | .date _ | .moment _ => mismatch .kind

/-- A value that may be missing, as a binary number. -/
def toReal? : Value → Outcome (Option Binary64)
  | .null => .ok none
  | v => v.toReal.map some

/-- The number of a count that may be missing or zero. -/
def toCount (v : Value) : Outcome Int :=
  if v.truthy then v.toInt else .ok 0

/-- The whole number that a request gives under a name; null and an empty text give none. -/
def toWhole? (name : String) (code : ErrorCode) (v : Value) : Outcome (Option Int) :=
  let refused : Outcome (Option Int) := reject code s!"{name} must be an integer, got {v.shown}"
  match v with
  | .null => .ok none
  | .bool _ => reject code s!"{name} must be an integer"
  | .int n => .ok (some n)
  | .real x => if x.isWhole then some <$> truncate x else refused
  | .text s =>
    if s.isEmpty then .ok none
    else if allDigits ((trim s).toList.dropWhile (· == '-')) then
      some <$> toInt (.text (trim s))
    else refused
  | _ => refused

/-- The whole number that a request gives under a name, or the default. -/
def toWhole (name : String) (default_ : Int) (code : ErrorCode) (v : Value) : Outcome Int := do
  return (← v.toWhole? name code).getD default_

/-- The bound that a value sets on a number of items; null sets none. -/
def toBound : Value → Outcome (Option Int)
  | .null => .ok none
  | .bool b => .ok (some (if b then 1 else 0))
  | .int n => .ok (some n)
  | _ => mismatch .kind

/-- The digits of a whole number. -/
def wholeText (n : Int) : Outcome String :=
  (writeInt n).mapError fun e => .unusable (.numeral e)

/-! ## Parts -/

/-- The parts of a value that can be walked: the items of a list, the keys of a record, the
characters of a text. -/
def elements : Value → Outcome (List Value)
  | .list items => .ok items
  | .record members => .ok (members.map fun m => .text m.1)
  | .text s => .ok (s.toList.map fun c => .text (String.singleton c))
  | _ => mismatch .kind

/-- The value of a key of a record; null for a key that it has not. Only records are asked for
keys. -/
def get (key : String) : Value → Outcome Value
  | .record members => .ok ((valueOf? key members).getD .null)
  | _ => mismatch .member

/-- The text that a value is; only texts have one. -/
def asText : Value → Outcome String
  | .text s => .ok s
  | _ => mismatch .member

/-- The text that a value is, or the given text if the value does not count as true. -/
def textOr (default_ : String) (v : Value) : Outcome String :=
  if v.truthy then v.asText else .ok default_

/-- The plain form of a value, or the given text if the value does not count as true. -/
def displayOr (default_ : String) (v : Value) : String :=
  if v.truthy then v.display else default_

end Crosstab.Value

import Crosstab.Value.Convert

/-!
# Points of time on the command line

A point of time is a number of seconds since the start of 1970, a moment, or a time before now,
such as `-90m`. A moment without offset is in universal time.

Models `parse_time`.
-/

namespace Crosstab.Command

open Calendar Number

/-- The seconds of a unit of time. -/
def unitSeconds? : Char → Option Nat
  | 'm' => some 60
  | 'h' => some 3600
  | 'd' => some 86400
  | _ => none

/-- Whether microseconds since the start of 1970 lie in the years 1 to 9999. -/
def inCalendar (micros : Int) : Bool :=
  decide (-719162 * (dayMicros : Int) ≤ micros ∧ micros < 2932897 * (dayMicros : Int))

/-- The seconds of microseconds. -/
def secondsOf (micros : Int) : Binary64 :=
  .ofRatio (micros < 0) micros.natAbs 1000000

/-- The seconds of a time before now, which is given in microseconds. -/
def before (now : Int) (amount : String) (unitSeconds : Nat) : Outcome Binary64 := do
  let n ← (readInt amount).mapError fun e => Failure.unusable (.numeral e)
  let micros := now - n * unitSeconds * 1000000
  if !inCalendar micros then mismatch .overflow
  return secondsOf micros

/-- The number and the unit of a time before now. -/
def relative? (s : String) : Option (String × Nat) :=
  match s.toList, s.toList.getLast?.bind unitSeconds? with
  | '-' :: rest, some unit => some (String.ofList rest.dropLast, unit)
  | _, _ => none

/-- The seconds of a point of time that a text tells. -/
def secondsOfText (now : Int) (s : String) : Outcome Binary64 :=
  if s == "now" then .ok (secondsOf now)
  else
    match relative? s with
    | some (amount, unit) => before now amount unit
    | none =>
      match readReal s with
      | .ok x => .ok x
      | .error _ =>
        match Iso.read s with
        | .ok m => .ok m.epochSeconds
        | .error e => .error (.unusable (.moment e))

/-- The seconds of a point of time; null is none. -/
def pointInTime (now : Int) (v : Value) : Outcome Value :=
  match v with
  | .null => .ok .null
  | v => do return .real (← secondsOfText now (← v.asText))

end Crosstab.Command

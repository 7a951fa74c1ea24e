import Crosstab.Value.Convert

/-!
# Values as milliseconds

A point of time is told as milliseconds since the start of 1970. A number, or a text that spells
one, counts seconds; a moment is an instant, and a date is its first instant in universal time.

Models `epoch_millis`.
-/

namespace Crosstab.Value

open Number

/-- The seconds since the start of 1970 of a point of time. -/
def epochSeconds : Value → Outcome Binary64
  | .moment m => .ok m.epochSeconds
  | .date d => .ok d.moment.epochSeconds
  | v => v.toReal

/-- The milliseconds of a point of time, cut down to a whole one; null has none. -/
def epochMillis (v : Value) : Outcome (Option Int) := do
  if v == .null then return none
  match (← v.epochSeconds).mul (.ofNat 1000) with
  | .nan => throw (.unusable .notANumber)
  | .infinite _ => mismatch .overflow
  | .finite s u => return some (Int.fdiv (Binary64.signed s u) Binary64.one)

end Crosstab.Value

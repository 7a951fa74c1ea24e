import Crosstab.Calendar.Date
import Crosstab.Number.Binary64

/-!
# Moments

A moment is a point of time with microseconds: a date and a time of day, with or without an offset
from universal time. One without is read as universal time when an instant is asked for.

Models `datetime`, with `timestamp`.
-/

namespace Crosstab.Calendar

/-- The numbers name a time of day. -/
def ValidClock (hour minute second micro : Nat) : Prop :=
  hour < 24 ∧ minute < 60 ∧ second < 60 ∧ micro < 1000000

instance (hour minute second micro : Nat) : Decidable (ValidClock hour minute second micro) :=
  inferInstanceAs (Decidable (_ ∧ _ ∧ _ ∧ _))

/-- A time of day. -/
structure Clock where
  hour : Nat
  minute : Nat
  second : Nat
  micro : Nat
  valid : ValidClock hour minute second micro
  deriving DecidableEq

namespace Clock

/-- The time of day of the given numbers, or which of them is out of range. The caller keeps
microseconds below a million. -/
def of? (hour minute second micro : Nat) : Except RangeError Clock :=
  if h : ValidClock hour minute second micro then .ok ⟨hour, minute, second, micro, h⟩
  else if 24 ≤ hour then .error .hour
  else if 60 ≤ minute then .error .minute
  else .error .second

/-- The start of a day. -/
def midnight : Clock := ⟨0, 0, 0, 0, by decide⟩

/-- The microseconds since midnight. -/
def micros (c : Clock) : Nat :=
  ((c.hour * 60 + c.minute) * 60 + c.second) * 1000000 + c.micro

end Clock

/-- The microseconds of a day. -/
def dayMicros : Nat := 86400 * 1000000

/-- A date and a time of day, with an offset from universal time in microseconds if one is
known. -/
structure Moment where
  date : Date
  clock : Clock
  offset? : Option Int
  deriving DecidableEq

namespace Moment

/-- The microseconds from the start of 1970 to the moment in its own time. -/
def localMicros (m : Moment) : Int :=
  m.date.epochDays * dayMicros + m.clock.micros

/-- The microseconds from the start of 1970 to the moment in universal time. -/
def epochMicros (m : Moment) : Int :=
  m.localMicros - m.offset?.getD 0

/-- The seconds from the start of 1970 to the moment, as a binary number. -/
def epochSeconds (m : Moment) : Number.Binary64 :=
  Number.Binary64.ofRatio (m.epochMicros < 0) m.epochMicros.natAbs 1000000

end Moment

/-- The start of a day in universal time. -/
def Date.moment (d : Date) : Moment :=
  ⟨d, .midnight, some 0⟩

end Crosstab.Calendar

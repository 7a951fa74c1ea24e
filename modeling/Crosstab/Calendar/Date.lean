/-!
# Calendar dates

Dates are those of the years 1 to 9999 in the Gregorian calendar, extended to all of them; their
distance is counted in days. Weeks are numbered as ISO 8601 does: the first week of a year is the
one that holds its first Thursday, and a week starts on Monday.

Models `date`, with `toordinal`, `fromordinal` and `fromisocalendar`.
-/

namespace Crosstab.Calendar

/-- Whether the year has a leap day. -/
def isLeap (year : Nat) : Bool :=
  year % 4 == 0 && (year % 100 != 0 || year % 400 == 0)

/-- The days of a month. -/
def monthDays (year month : Nat) : Nat :=
  if month == 2 then if isLeap year then 29 else 28
  else if month == 4 || month == 6 || month == 9 || month == 11 then 30
  else 31

/-- Why numbers are no date or no time of day. -/
inductive RangeError where
  | year (n : Nat)
  | month
  | day
  | hour
  | minute
  | second
  deriving Repr, DecidableEq

/-- The error in words. -/
def RangeError.message : RangeError → String
  | .year n => s!"year {n} is out of range"
  | .month => "month must be in 1..12"
  | .day => "day is out of range for month"
  | .hour => "hour must be in 0..23"
  | .minute => "minute must be in 0..59"
  | .second => "second must be in 0..59"

/-- The numbers name a day of the calendar. -/
def ValidDate (year month day : Nat) : Prop :=
  (1 ≤ year ∧ year ≤ 9999) ∧ (1 ≤ month ∧ month ≤ 12) ∧ 1 ≤ day ∧ day ≤ monthDays year month

instance (year month day : Nat) : Decidable (ValidDate year month day) :=
  inferInstanceAs (Decidable (_ ∧ _ ∧ _ ∧ _))

/-- A day of the calendar. -/
structure Date where
  year : Nat
  month : Nat
  day : Nat
  valid : ValidDate year month day
  deriving DecidableEq

namespace Date

/-- The date of the given numbers, or which of them is out of range. -/
def of? (year month day : Nat) : Except RangeError Date :=
  if h : ValidDate year month day then .ok ⟨year, month, day, h⟩
  else if year < 1 || 9999 < year then .error (.year year)
  else if month < 1 || 12 < month then .error .month
  else .error .day

/-- The days of the year before the first of a month. -/
def daysBeforeMonth (year month : Nat) : Nat :=
  (List.range (month - 1)).foldl (fun days i => days + monthDays year (i + 1)) 0

/-- The days from the first day of year 1 to the first day of a year. -/
def daysBeforeYear (year : Nat) : Nat :=
  let y := year - 1
  y * 365 + y / 4 - y / 100 + y / 400

/-- The number of the day, counted from 1 for the first day of year 1. -/
def ordinal (d : Date) : Nat :=
  daysBeforeYear d.year + daysBeforeMonth d.year d.month + d.day

/-- The number of the first day of 1970. -/
def epochOrdinal : Nat := 719163

/-- The days since the first day of 1970. -/
def epochDays (d : Date) : Int :=
  (d.ordinal : Int) - epochOrdinal

end Date

/-! ## Weeks -/

/-- The day of the week of the first of January, zero for Monday. -/
def januaryWeekday (year : Nat) : Nat :=
  (Date.daysBeforeYear year) % 7

/-- The number of weeks in a year. -/
def weekCount (year : Nat) : Nat :=
  let w := januaryWeekday year
  if w == 3 || (w == 2 && isLeap year) then 53 else 52

/-- The month and day of the `n`-th day of a year, counted from zero. -/
def monthDayOf (year n : Nat) : List Nat → Nat × Nat
  | [] => (12, n + 1)
  | month :: rest =>
    if n < monthDays year month then (month, n + 1)
    else monthDayOf year (n - monthDays year month) rest

/-- The month and day of the `n`-th day of a year, counted from zero; a day before or after the
year is one of the year beside it. -/
def yearMonthDay (year : Nat) (n : Int) : Nat × Nat × Nat :=
  let days (y : Nat) : Int := if isLeap y then 366 else 365
  let (y, k) :=
    if n < 0 then (year - 1, n + days (year - 1))
    else if days year ≤ n then (year + 1, n - days year)
    else (year, n)
  (y, monthDayOf y k.toNat ((List.range 12).map (· + 1)))

/-- The year, month and day of a weekday from 1 to 7 in a numbered week; none if the year has no
such week or the week no such day. They may lie beyond the calendar: in the year after it, or in
month 0 for a week of a year 0. -/
def ofWeek? (year week weekday : Nat) : Option (Nat × Nat × Nat) :=
  let weeks := if year == 0 then 52 else weekCount year
  if 9999 < year || week < 1 || weeks < week || weekday < 1 || 7 < weekday then none
  else if year == 0 then some (1, 0, 1)
  else
    let w := januaryWeekday year
    let monday : Int := if w ≤ 3 then -(w : Int) else 7 - w
    some (yearMonthDay year (monday + (week - 1) * 7 + (weekday - 1)))

end Crosstab.Calendar

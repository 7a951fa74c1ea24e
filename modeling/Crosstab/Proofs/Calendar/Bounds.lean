import Crosstab.Calendar.Moment
import Crosstab.Number.Power
import Mathlib.Algebra.Order.Ring.Int
import Mathlib.Tactic.Linarith

/-!
# Bounds of the calendar

The calendar ends with the year 9999, so no instant is further from 1970 than so many microseconds,
whatever the offset of less than a day by which it is given.
-/

namespace Crosstab.Calendar

/-! ## Dates -/

theorem monthDays_le (year month : Nat) : monthDays year month ≤ 31 := by
  unfold monthDays
  split_ifs <;> omega

namespace Date

theorem daysBeforeMonth_le (year month : Nat) : daysBeforeMonth year month ≤ 31 * (month - 1) := by
  unfold daysBeforeMonth
  induction month - 1 with
  | zero => exact Nat.le_refl 0
  | succ n ih =>
    have hdays := monthDays_le year (n + 1)
    rw [List.range_succ, List.foldl_append, List.foldl_cons, List.foldl_nil]
    omega

theorem daysBeforeYear_le {year : Nat} (h : year ≤ 9999) : daysBeforeYear year ≤ 3651793 := by
  unfold daysBeforeYear
  dsimp only
  omega

/-- No day is as far from the first of year 1 as four million days. -/
theorem ordinal_le (d : Date) : d.ordinal ≤ 4000000 := by
  obtain ⟨⟨-, hyear⟩, ⟨-, hmonth⟩, -, hday⟩ := d.valid
  have hyears := daysBeforeYear_le hyear
  have hmonths := daysBeforeMonth_le d.year d.month
  have hdays := monthDays_le d.year d.month
  unfold ordinal
  omega

end Date

/-! ## Moments -/

theorem Clock.micros_lt (c : Clock) : c.micros < dayMicros := by
  obtain ⟨hhour, hminute, hsecond, hmicro⟩ := c.valid
  unfold micros dayMicros
  omega

namespace Moment

/-- The offset, if there is one, is less than a day. -/
def OffsetInDay (m : Moment) : Prop :=
  ∀ o ∈ m.offset?, |o| < dayMicros

theorem epochMicros_lt {m : Moment} (h : m.OffsetInDay) : |m.epochMicros| < Number.tenTo 18 := by
  have hday := m.date.ordinal_le
  have hclock := m.clock.micros_lt
  have hoffset : |m.offset?.getD 0| < dayMicros := by
    cases ho : m.offset? with
    | none => decide
    | some o => exact h o ho
  have h18 : (Number.tenTo 18 : Int) = 1000000000000000000 := by decide
  rw [h18]
  rw [abs_lt] at hoffset ⊢
  unfold epochMicros localMicros Date.epochDays Date.epochOrdinal
  have hmicros : (dayMicros : Int) = 86400000000 := by decide
  rw [hmicros] at hoffset ⊢
  rw [dayMicros] at hclock
  constructor <;> omega

end Moment

end Crosstab.Calendar

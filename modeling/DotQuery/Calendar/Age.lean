import DotQuery.Calendar.Instant

/-!
Components of a date and the time from one date to another. Ages are taken from the difference in
milliseconds: years are those of the difference counted from 1970, months add to twelve for each
year the month of what is left since the anniversary, days are whole days rounded down and hours are
24 for each day.
-/

namespace DotQuery.Calendar

/-- The unit that a date or an age is given in. -/
inductive DateUnit where
  | years
  | months
  | days
  | hours
deriving DecidableEq

namespace DateUnit

def ofText? : List Char → Option DateUnit
  | ['Y', 'Y'] => some years
  | ['M', 'M'] => some months
  | ['D', 'D'] => some days
  | ['H', 'H'] => some hours
  | _ => none

end DateUnit

/-- The calendar component of an instant in UTC. -/
def component (t : Instant) : DateUnit → Int
  | .years => t.date.year
  | .months => t.date.month
  | .days => t.date.day
  | .hours => t.hour

/-- How far the year of 1970 moves when the difference is added to its start. -/
def elapsedYears? (millis : Int) : Option Int :=
  (Instant.ofMillis millis).covered?.map fun t => ((t.date.year - 1970).natAbs : Int)

/-- Midnight of the month and day of `date` in `year`; a day that the month lacks counts on into
the next month. -/
def anniversary? (year : Int) (date : Date) : Option Instant :=
  if -9999 ≤ year ∧ year ≤ 9999 then
    Instant.covered? ⟨(monthStart year date.month + (date.day - 1)) * nanosPerDay⟩
  else none

/-- The time from `t` to `now`; years and months exist only while the calendar covers the
difference. -/
def age? (t : Instant) (now : Moment) (unit : DateUnit) : Option Int :=
  let difference := now.instant.millis - t.millis
  match unit with
  | .years => elapsedYears? difference
  | .months => do
    let anniversary ← anniversary? now.year t.date
    let residual ← (Instant.ofMillis (now.instant.millis - anniversary.millis)).covered?
    let years ← elapsedYears? difference
    return years * 12 + residual.date.month - 1
  | .days => some (difference / millisPerDay)
  | .hours => some (difference / millisPerDay * 24)

end DotQuery.Calendar

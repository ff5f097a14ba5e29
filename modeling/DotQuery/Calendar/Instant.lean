import DotQuery.Calendar.Date

/-!
Points of time. An instant counts nanoseconds from the start of 1970 in UTC; a moment is an instant
together with the offset of the clock that it was read from. The calendar covers the years -9999 to
9999.
-/

namespace DotQuery.Calendar

def nanosPerSecond : Int := 1000000000

def nanosPerMilli : Int := 1000000

def nanosPerDay : Int := 86400 * nanosPerSecond

def millisPerDay : Int := 86400000

structure Instant where
  nanos : Int
deriving DecidableEq

structure Moment where
  /-- The reading of the local clock, as nanoseconds from the start of 1970. -/
  wall : Int
  /-- How far the local clock is ahead of UTC, in seconds. -/
  offset : Int
deriving DecidableEq

/-- The first nanosecond of 1 January -9999. -/
def earliest : Int := (Date.mk (-9999) 1 1).dayNumber * nanosPerDay

/-- The first nanosecond after 31 December 9999. -/
def latest : Int := (Date.mk 10000 1 1).dayNumber * nanosPerDay

namespace Instant

/-- The instant lies in the years that the calendar covers. -/
def IsCovered (t : Instant) : Prop :=
  earliest ≤ t.nanos ∧ t.nanos < latest

instance (t : Instant) : Decidable t.IsCovered :=
  inferInstanceAs (Decidable (_ ∧ _))

def ofMillis (millis : Int) : Instant :=
  ⟨millis * nanosPerMilli⟩

/-- The instant, if the calendar covers it. -/
def covered? (t : Instant) : Option Instant :=
  if t.IsCovered then some t else none

/-- Whole milliseconds from the start of 1970, rounded down. -/
def millis (t : Instant) : Int :=
  t.nanos / nanosPerMilli

def date (t : Instant) : Date :=
  .ofDayNumber (t.nanos / nanosPerDay)

/-- Nanoseconds since midnight. -/
def timeOfDay (t : Instant) : Nat :=
  (t.nanos % nanosPerDay).toNat

def hour (t : Instant) : Nat :=
  t.timeOfDay / 3600000000000

def minute (t : Instant) : Nat :=
  t.timeOfDay / 60000000000 % 60

def second (t : Instant) : Nat :=
  t.timeOfDay / 1000000000 % 60

def nanosecond (t : Instant) : Nat :=
  t.timeOfDay % 1000000000

end Instant

namespace Moment

def instant (m : Moment) : Instant :=
  ⟨m.wall - m.offset * nanosPerSecond⟩

/-- The year that the local clock shows. -/
def year (m : Moment) : Int :=
  (Date.ofDayNumber (m.wall / nanosPerDay)).year

end Moment

def Instant.toMoment (t : Instant) : Moment :=
  ⟨t.nanos, 0⟩

end DotQuery.Calendar

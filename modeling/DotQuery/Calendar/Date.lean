/-!
The proleptic Gregorian calendar: dates and the count of days that orders them. Year zero exists and
is a leap year. The count starts at 1 January 1970, and the date of a count is found from the year
whose first day is the last one not after it.
-/

namespace DotQuery.Calendar

structure Date where
  year : Int
  month : Nat
  day : Nat
deriving DecidableEq

def isLeapYear (year : Int) : Bool :=
  year % 4 == 0 && (year % 100 != 0 || year % 400 == 0)

/-- The days of each month, January first. -/
def monthLengths (leap : Bool) : List Nat :=
  [31, if leap then 29 else 28, 31, 30, 31, 30, 31, 31, 30, 31, 30, 31]

def monthLength (year : Int) (month : Nat) : Nat :=
  (monthLengths (isLeapYear year)).getD (month - 1) 0

/-- The days of the year that precede the first of `month`. -/
def daysBeforeMonth (year : Int) (month : Nat) : Nat :=
  ((monthLengths (isLeapYear year)).take (month - 1)).foldl (· + ·) 0

/-- The days from 1 January of year zero to 1 January of `year`: a leap day for each year before it
that is divisible by 4, less the centuries, and with every fourth century again. -/
def yearStart (year : Int) : Int :=
  365 * year + (year + 3) / 4 - (year + 99) / 100 + (year + 399) / 400

/-- The day on which the count starts, as days after 1 January of year zero. -/
def epochStart : Int := yearStart 1970

/-- The count of the first of `month` of `year`. -/
def monthStart (year : Int) (month : Nat) : Int :=
  yearStart year + daysBeforeMonth year month - epochStart

namespace Date

def IsValid (date : Date) : Prop :=
  1 ≤ date.month ∧ date.month ≤ 12 ∧ 1 ≤ date.day ∧ date.day ≤ monthLength date.year date.month

instance (date : Date) : Decidable date.IsValid :=
  inferInstanceAs (Decidable (_ ∧ _))

/-- The days from 1 January 1970 to `date`. -/
def dayNumber (date : Date) : Int :=
  monthStart date.year date.month + (date.day - 1)

end Date

/-- The year of the day that lies `days` after 1 January of year zero. -/
def yearOf (days : Int) : Int :=
  let guess := days * 400 / 146097
  if days < yearStart guess then guess - 1
  else if yearStart (guess + 1) ≤ days then guess + 1
  else guess

/-- The month and day of the month that lie `days` after the first day of the first month listed. -/
def splitMonths (month : Nat) : List Nat → Nat → Nat × Nat
  | [], days => (month, days + 1)
  | length :: rest, days =>
    if days < length then (month, days + 1) else splitMonths (month + 1) rest (days - length)

/-- The date that lies `number` days after 1 January 1970. -/
def Date.ofDayNumber (number : Int) : Date :=
  let days := number + epochStart
  let year := yearOf days
  let (month, day) := splitMonths 1 (monthLengths (isLeapYear year)) (days - yearStart year).toNat
  ⟨year, month, day⟩

end DotQuery.Calendar

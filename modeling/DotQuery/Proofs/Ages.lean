import DotQuery.Calendar.Age
import DotQuery.Proofs.CivilDate

/-!
# The units of an age

Years are read off the difference as if it had started with 1970, and the months that are left off
the time since the anniversary in the year that the clock shows. That time is never longer than a
year and a few days, so the anniversary is always there, and years and months are missing together.
-/

namespace DotQuery.Calendar

variable {date : Date} {year years months days difference : Int} {t : Instant} {now : Moment}

/-! ### Elapsed years -/

theorem elapsedYears?_eq_some_iff :
    elapsedYears? difference = some years ↔ (Instant.ofMillis difference).IsCovered ∧
      ((Instant.ofMillis difference).date.year - 1970).natAbs = years := by
  unfold elapsedYears? Instant.covered?
  split
  · next hcovered => simp [hcovered]
  · next hoverflow => simp [hoverflow]

theorem elapsedYears?_eq_none_iff :
    elapsedYears? difference = none ↔ ¬(Instant.ofMillis difference).IsCovered := by
  simp [elapsedYears?, Instant.covered?]

/-- Years of 365 days are no longer, and years of 366 days no shorter, than the days counted. -/
theorem days_bounds_of_elapsedYears? (hyears : elapsedYears? difference = some years) :
    (0 ≤ difference → 365 * years ≤ difference / millisPerDay ∧
      difference / millisPerDay < 366 * (years + 1)) ∧
    (difference < 0 → 1 ≤ years ∧ 365 * (years - 1) < -(difference / millisPerDay) ∧
      -(difference / millisPerDay) ≤ 366 * years) := by
  obtain ⟨-, rfl⟩ := elapsedYears?_eq_some_iff.mp hyears
  have hepoch : epochStart = yearStart 1970 := rfl
  rw [Instant.date_ofMillis]
  unfold millisPerDay
  generalize hyear : (Date.ofDayNumber (difference / 86400000)).year = year
  obtain ⟨hfrom, hto⟩ := Date.year_ofDayNumber_eq_iff.mp hyear
  have hsince := Date.le_year_ofDayNumber_iff 1970 (difference / 86400000)
  rw [hyear, hepoch] at hsince
  constructor
  · intro hpast
    have hle : 1970 ≤ year := by omega
    have hleast := yearStart_mono hle
    have hmost := yearStart_le_add (show 1970 ≤ year + 1 by omega)
    omega
  · intro hfuture
    have hlt : year + 1 ≤ 1970 := by omega
    have hleast := yearStart_mono hlt
    have hmost := yearStart_le_add (show year ≤ 1970 by omega)
    omega

/-! ### Anniversaries -/

/-- The number of the month and day of `date` in `year`. -/
def anniversaryDay (year : Int) (date : Date) : Int :=
  monthStart year date.month + (date.day - 1)

theorem daysBeforeMonth_add_le (year : Int) {month : Nat} (hmonth : 1 ≤ month)
    (hlast : month ≤ 12) : daysBeforeMonth year month + 31 ≤ yearLength year := by
  unfold daysBeforeMonth yearLength
  generalize isLeapYear year = leap
  interval_cases month <;> cases leap <;> decide

/-- Also a day that the month lacks stays in the year. -/
theorem anniversaryDay_bounds (hvalid : date.IsValid) (year : Int) :
    yearStart year - epochStart ≤ anniversaryDay year date ∧
      anniversaryDay year date < yearStart (year + 1) - epochStart := by
  obtain ⟨hmonth, hlast, hday, hlength⟩ := hvalid
  have hlong := (monthLength_bounds date.year hmonth hlast).2
  have hbefore := daysBeforeMonth_add_le year hmonth hlast
  have hnext := yearStart_add_one year
  unfold anniversaryDay monthStart
  omega

theorem anniversary?_eq_some (hvalid : date.IsValid) (hfrom : -9999 ≤ year) (hto : year ≤ 9999) :
    anniversary? year date = some ⟨anniversaryDay year date * nanosPerDay⟩ := by
  have hbounds := anniversaryDay_bounds hvalid year
  have hday : anniversaryDay year date * nanosPerDay / nanosPerDay = anniversaryDay year date :=
    Int.mul_ediv_cancel _ (by decide)
  have hyear : (Date.ofDayNumber (anniversaryDay year date)).year = year := by
    rw [Date.year_ofDayNumber_eq_iff]
    omega
  have hcovered : Instant.IsCovered ⟨anniversaryDay year date * nanosPerDay⟩ := by
    rw [Instant.isCovered_iff, Instant.date, hday, hyear]
    exact ⟨hfrom, hto⟩
  rw [anniversary?, if_pos ⟨hfrom, hto⟩]
  exact if_pos hcovered

/-! ### Clocks -/

namespace Moment

/-- The clock shows a year that the calendar covers and is less than 26 hours apart from UTC. -/
def InCalendar (m : Moment) : Prop :=
  (-9999 ≤ m.year ∧ m.year ≤ 9999) ∧ -93600 < m.offset ∧ m.offset < 93600

instance (m : Moment) : Decidable m.InCalendar :=
  inferInstanceAs (Decidable (_ ∧ _))

/-- The instant lies in the year that the clock shows, but for the distance from UTC. -/
theorem InCalendar.millis_bounds (hnow : now.InCalendar) :
    (yearStart now.year - epochStart) * millisPerDay - 93600000 < now.instant.millis ∧
      now.instant.millis < (yearStart (now.year + 1) - epochStart) * millisPerDay + 93600000 := by
  obtain ⟨-, hbehind, hahead⟩ := hnow
  obtain ⟨hfrom, hto⟩ := Date.year_ofDayNumber_eq_iff.mp (rfl : _ = now.year)
  unfold Instant.millis instant
  simp only [nanosPerDay, nanosPerSecond, nanosPerMilli, millisPerDay] at hfrom hto ⊢
  omega

end Moment

/-- The time since the anniversary in the year that the clock shows, counted from 1970. -/
def sinceAnniversary (t : Instant) (now : Moment) : Instant :=
  .ofMillis (now.instant.millis - anniversaryDay now.year t.date * millisPerDay)

theorem sinceAnniversary_bounds (hnow : now.InCalendar) (t : Instant) :
    -31716000000 < (sinceAnniversary t now).millis ∧
      (sinceAnniversary t now).millis < 31716000000 := by
  have hmillis := hnow.millis_bounds
  have hday := anniversaryDay_bounds (Date.isValid_ofDayNumber (t.nanos / nanosPerDay)) now.year
  have hnext := yearStart_add_one now.year
  have hlength := (yearLength_bounds now.year).2
  rw [sinceAnniversary, Instant.millis_ofMillis, Instant.date]
  simp only [millisPerDay] at hmillis ⊢
  omega

theorem isCovered_sinceAnniversary (hnow : now.InCalendar) (t : Instant) :
    (sinceAnniversary t now).IsCovered := by
  have hbounds := sinceAnniversary_bounds hnow t
  have hearliest : earliest ≤ -31716000000 * nanosPerMilli := by decide
  have hlatest : 31716000000 * nanosPerMilli ≤ latest := by decide
  rw [sinceAnniversary, Instant.millis_ofMillis] at hbounds
  simp only [sinceAnniversary, Instant.IsCovered, Instant.ofMillis]
  simp only [nanosPerMilli] at hearliest hlatest ⊢
  omega

/-- The anniversary is always there, so an age has months whenever it has years. -/
theorem age?_months_eq (hnow : now.InCalendar) (t : Instant) :
    age? t now .months = (elapsedYears? (now.instant.millis - t.millis)).map fun years =>
      (years * 12 + (sinceAnniversary t now).date.month - 1 : Int) := by
  have hanniversary : anniversary? now.year t.date =
      some ⟨anniversaryDay now.year t.date * nanosPerDay⟩ :=
    anniversary?_eq_some (Date.isValid_ofDayNumber _) hnow.1.1 hnow.1.2
  have hmillis : Instant.millis ⟨anniversaryDay now.year t.date * nanosPerDay⟩ =
      anniversaryDay now.year t.date * millisPerDay := by
    simp only [Instant.millis, nanosPerDay, nanosPerSecond, nanosPerMilli, millisPerDay]
    omega
  have hresidual : (Instant.ofMillis (now.instant.millis -
      anniversaryDay now.year t.date * millisPerDay)).covered? = some (sinceAnniversary t now) :=
    if_pos (isCovered_sinceAnniversary hnow t)
  simp only [age?, hanniversary, hmillis, hresidual, Option.bind_eq_bind, Option.bind_some]
  cases elapsedYears? (now.instant.millis - t.millis) <;> rfl

/-! ### Units -/

/-- Days and hours are there for any two instants. Years and months are missing together, where the
difference counted from 1970 leaves the calendar. The months complete the years by less than one
year, and the years fit the days on both sides of the present. -/
theorem age_units_consistent (hnow : now.InCalendar) (t : Instant) :
    (∃ days, age? t now .days = some days ∧ age? t now .hours = some (24 * days)) ∧
    (age? t now .months = none ↔ age? t now .years = none) ∧
    (age? t now .years = none ↔
      ¬(-9999 ≤ (Instant.ofMillis (now.instant.millis - t.millis)).date.year ∧
        (Instant.ofMillis (now.instant.millis - t.millis)).date.year ≤ 9999)) ∧
    (∀ years months, age? t now .years = some years → age? t now .months = some months →
      12 * years ≤ months ∧ months ≤ 12 * years + 11) ∧
    ∀ years days, age? t now .years = some years → age? t now .days = some days →
      (t.millis ≤ now.instant.millis → 365 * years ≤ days ∧ days < 366 * (years + 1)) ∧
      (now.instant.millis < t.millis →
        1 ≤ years ∧ 365 * (years - 1) < -days ∧ -days ≤ 366 * years) := by
  have hmonths := age?_months_eq hnow t
  have hyears : age? t now .years = elapsedYears? (now.instant.millis - t.millis) := rfl
  refine ⟨⟨_, rfl, ?_⟩, ?_, ?_, fun years months hsome hfound => ?_,
    fun years days hsome hfound => ?_⟩
  · rw [Int.mul_comm]
    rfl
  · rw [hmonths, hyears, Option.map_eq_none_iff]
  · rw [hyears, elapsedYears?_eq_none_iff, Instant.isCovered_iff]
  · rw [hyears] at hsome
    rw [hmonths, hsome, Option.map_some, Option.some.injEq] at hfound
    obtain ⟨hfirst, hlast, -⟩ : (sinceAnniversary t now).date.IsValid := Date.isValid_ofDayNumber _
    omega
  · obtain ⟨hpast, hfuture⟩ := days_bounds_of_elapsedYears? hsome
    obtain rfl : (now.instant.millis - t.millis) / millisPerDay = days := Option.some.inj hfound
    exact ⟨fun hle => hpast (by omega), fun hlt => hfuture (by omega)⟩

/-- Two days before a date it counts as one year, since the year before 1970 is one year away. -/
theorem age_units_consistent_future_date :
    let now : Moment := ⟨wallOf ⟨2020, 1, 1⟩ 0 0 0 0, 0⟩
    let t : Instant := ⟨wallOf ⟨2020, 1, 3⟩ 0 0 0 0⟩
    now.InCalendar ∧ now.instant.millis < t.millis ∧
      age? t now .years = some 1 ∧ age? t now .days = some (-2) ∧
      (1 : Int) ≤ 1 ∧ (365 : Int) * (1 - 1) < -(-2) ∧ -(-2 : Int) ≤ 366 * 1 := by
  intro now t
  have hnow : now.InCalendar := by decide
  have hbefore : now.instant.millis < t.millis := by decide
  have hyears : age? t now .years = some 1 := by decide
  have hdays : age? t now .days = some (-2) := by decide
  exact ⟨hnow, hbefore, hyears, hdays,
    ((age_units_consistent hnow t).2.2.2.2 1 (-2) hyears hdays).2 hbefore⟩

end DotQuery.Calendar

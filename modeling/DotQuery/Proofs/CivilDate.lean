import DotQuery.Proofs.WrittenDate
import Mathlib.Data.List.GetD

/-!
# Dates and their numbers

The numbers of a year's days fill the stretch from its start to the start of the next year, and the
months fill the year. So every number belongs to exactly one valid date, and counting the days of a
date and finding the date of a number undo each other.
-/

namespace DotQuery.Calendar

variable {days year later : Int}

/-! ### Years -/

def yearLength (year : Int) : Nat :=
  if isLeapYear year then 366 else 365

theorem yearLength_bounds (year : Int) : 365 ≤ yearLength year ∧ yearLength year ≤ 366 := by
  unfold yearLength
  split <;> decide

theorem isLeapYear_eq_true_iff :
    isLeapYear year = true ↔ year % 4 = 0 ∧ (year % 100 ≠ 0 ∨ year % 400 = 0) := by
  simp [isLeapYear]

theorem yearStart_add_one (year : Int) :
    yearStart (year + 1) = yearStart year + yearLength year := by
  unfold yearLength yearStart
  split
  · next hleap =>
      rw [isLeapYear_eq_true_iff] at hleap
      omega
  · next hcommon =>
      rw [isLeapYear_eq_true_iff] at hcommon
      omega

theorem yearStart_le_add (hle : year ≤ later) :
    yearStart later ≤ yearStart year + 366 * (later - year) := by
  induction later, hle using Int.leInduction with
  | base => omega
  | succ later _ ih =>
      have hstep := yearStart_add_one later
      have hlength := (yearLength_bounds later).2
      omega

/-- The guess from the average length of a year misses by one year at most. -/
theorem yearStart_guess (days : Int) :
    yearStart (days * 400 / 146097 - 1) ≤ days ∧
      days < yearStart (days * 400 / 146097 + 2) := by
  unfold yearStart
  constructor <;> omega

theorem yearOf_spec (days : Int) :
    yearStart (yearOf days) ≤ days ∧ days < yearStart (yearOf days + 1) := by
  obtain ⟨hfrom, hto⟩ := yearStart_guess days
  unfold yearOf
  dsimp only
  split
  · next hbefore => exact ⟨hfrom, by rwa [Int.sub_add_cancel]⟩
  · next hstart =>
      split
      · next hafter => exact ⟨hafter, by rwa [Int.add_assoc]⟩
      · next hend => exact ⟨Int.not_lt.mp hstart, Int.not_le.mp hend⟩

theorem le_yearOf_iff (year days : Int) : year ≤ yearOf days ↔ yearStart year ≤ days := by
  obtain ⟨hfrom, hto⟩ := yearOf_spec days
  constructor
  · intro hle
    have hmono := yearStart_mono hle
    omega
  · intro hstart
    by_contra hlt
    have hmono := yearStart_mono (show yearOf days + 1 ≤ year by omega)
    omega

theorem yearOf_eq_iff :
    yearOf days = year ↔ yearStart year ≤ days ∧ days < yearStart (year + 1) := by
  have hstart := le_yearOf_iff year days
  have hnext := le_yearOf_iff (year + 1) days
  omega

/-! ### Months -/

section Months

variable {lengths : List Nat} {number index day : Nat}

theorem sum_take_add_lt (hday : day < lengths.getD index 0) :
    (lengths.take index).sum + day < lengths.sum := by
  induction lengths generalizing index with
  | nil => exact absurd hday (Nat.not_lt_zero _)
  | cons length rest ih =>
      cases index with
      | zero =>
          rw [List.getD_cons_zero] at hday
          simp only [List.take_zero, List.sum_nil, List.sum_cons]
          omega
      | succ index =>
          have hrest := ih hday
          simp only [List.take_succ_cons, List.sum_cons]
          omega

theorem exists_month_of_lt_sum (hnumber : number < lengths.sum) :
    ∃ index day, (lengths.take index).sum + day = number ∧ day < lengths.getD index 0 := by
  induction lengths generalizing number with
  | nil => exact absurd hnumber (Nat.not_lt_zero _)
  | cons length rest ih =>
      by_cases hfirst : number < length
      · exact ⟨0, number, Nat.zero_add _, hfirst⟩
      · rw [List.sum_cons] at hnumber
        obtain ⟨index, day, hsum, hday⟩ := ih (show number - length < rest.sum by omega)
        refine ⟨index + 1, day, ?_, hday⟩
        rw [List.take_succ_cons, List.sum_cons]
        omega

/-- A day of a month is found behind the days of all months before it. -/
theorem splitMonths_of_lt (hday : day < lengths.getD index 0) (month : Nat) :
    splitMonths month lengths ((lengths.take index).sum + day) = (month + index, day + 1) := by
  induction lengths generalizing index month with
  | nil => exact absurd hday (Nat.not_lt_zero _)
  | cons length rest ih =>
      cases index with
      | zero =>
          rw [List.getD_cons_zero] at hday
          rw [List.take_zero, List.sum_nil, Nat.zero_add, splitMonths, if_pos hday]
          rfl
      | succ index =>
          have hbehind : ¬length + (rest.take index).sum + day < length := by omega
          have hrest : length + (rest.take index).sum + day - length =
              (rest.take index).sum + day := by omega
          rw [List.take_succ_cons, List.sum_cons, splitMonths, if_neg hbehind, hrest,
            ih hday (month + 1), Nat.add_assoc, Nat.add_comm 1]

end Months

theorem sum_monthLengths (year : Int) :
    (monthLengths (isLeapYear year)).sum = yearLength year := by
  unfold yearLength
  cases isLeapYear year <;> rfl

theorem daysBeforeMonth_eq_sum (year : Int) (month : Nat) :
    daysBeforeMonth year month = ((monthLengths (isLeapYear year)).take (month - 1)).sum :=
  List.sum_eq_foldl.symm

theorem monthLength_bounds (year : Int) {month : Nat} (hmonth : 1 ≤ month) (hlast : month ≤ 12) :
    28 ≤ monthLength year month ∧ monthLength year month ≤ 31 := by
  unfold monthLength
  generalize isLeapYear year = leap
  interval_cases month <;> cases leap <;> decide

theorem daysBeforeMonth_add_one (year : Int) {month : Nat} (hmonth : 1 ≤ month)
    (hlast : month ≤ 11) :
    daysBeforeMonth year (month + 1) = daysBeforeMonth year month + monthLength year month := by
  unfold daysBeforeMonth monthLength
  generalize isLeapYear year = leap
  interval_cases month <;> cases leap <;> decide

theorem monthLength_december (year : Int) :
    monthLength year 12 = 31 ∧ daysBeforeMonth year 12 + 31 = yearLength year := by
  unfold monthLength daysBeforeMonth yearLength
  cases isLeapYear year <;> decide

/-! ### Dates -/

namespace Date

variable {date : Date} {number : Int}

theorem IsValid.daysBeforeMonth_add_lt (hvalid : date.IsValid) :
    daysBeforeMonth date.year date.month + (date.day - 1) < yearLength date.year := by
  obtain ⟨-, -, hday, hlength⟩ := hvalid
  rw [daysBeforeMonth_eq_sum, ← sum_monthLengths]
  exact sum_take_add_lt (show date.day - 1 < monthLength date.year date.month by omega)

theorem year_ofDayNumber_eq_iff :
    (ofDayNumber number).year = year ↔
      yearStart year ≤ number + epochStart ∧ number + epochStart < yearStart (year + 1) :=
  yearOf_eq_iff

theorem le_year_ofDayNumber_iff (year number : Int) :
    year ≤ (ofDayNumber number).year ↔ yearStart year ≤ number + epochStart :=
  le_yearOf_iff year (number + epochStart)

theorem IsValid.year_ofDayNumber (hvalid : date.IsValid) :
    (ofDayNumber date.dayNumber).year = date.year := by
  have hday := hvalid.daysBeforeMonth_add_lt
  have hnext := yearStart_add_one date.year
  obtain ⟨-, -, hfirst, -⟩ := hvalid
  rw [year_ofDayNumber_eq_iff]
  unfold dayNumber monthStart
  omega

/-- A valid date is found again from its number. -/
theorem IsValid.ofDayNumber_dayNumber (hvalid : date.IsValid) :
    ofDayNumber date.dayNumber = date := by
  have hyear : yearOf (date.dayNumber + epochStart) = date.year := hvalid.year_ofDayNumber
  obtain ⟨hmonth, -, hfirst, hlength⟩ := hvalid
  have hdays : (date.dayNumber + epochStart - yearStart date.year).toNat =
      ((monthLengths (isLeapYear date.year)).take (date.month - 1)).sum + (date.day - 1) := by
    rw [← daysBeforeMonth_eq_sum]
    unfold dayNumber monthStart
    omega
  have hsplit := splitMonths_of_lt (show date.day - 1 < monthLength date.year date.month by omega) 1
  have hsameMonth : 1 + (date.month - 1) = date.month := by omega
  have hsameDay : date.day - 1 + 1 = date.day := by omega
  unfold ofDayNumber
  simp only [hyear, hdays, hsplit, hsameMonth, hsameDay]

theorem exists_dayNumber_eq (number : Int) :
    ∃ date : Date, date.IsValid ∧ date.dayNumber = number := by
  obtain ⟨hstart, hend⟩ := yearOf_spec (number + epochStart)
  generalize yearOf (number + epochStart) = year at hstart hend
  rw [yearStart_add_one, ← sum_monthLengths] at hend
  have hwithin : (number + epochStart - yearStart year).toNat <
      (monthLengths (isLeapYear year)).sum := by omega
  obtain ⟨index, day, hsum, hday⟩ := exists_month_of_lt_sum hwithin
  have hindex : index < 12 := by
    by_contra hbeyond
    rw [List.getD_eq_default _ _ (Nat.not_lt.mp hbeyond)] at hday
    exact absurd hday (Nat.not_lt_zero _)
  refine ⟨⟨year, index + 1, day + 1⟩, ⟨Nat.succ_pos _, hindex, Nat.succ_pos _, hday⟩, ?_⟩
  simp only [dayNumber, monthStart, daysBeforeMonth_eq_sum, Nat.add_sub_cancel]
  omega

theorem isValid_ofDayNumber (number : Int) : (ofDayNumber number).IsValid := by
  obtain ⟨date, hvalid, rfl⟩ := exists_dayNumber_eq number
  rwa [hvalid.ofDayNumber_dayNumber]

theorem dayNumber_ofDayNumber (number : Int) : (ofDayNumber number).dayNumber = number := by
  obtain ⟨date, hvalid, rfl⟩ := exists_dayNumber_eq number
  rw [hvalid.ofDayNumber_dayNumber]

/-- The day before is in the same month unless the date is the first of its month. -/
theorem IsValid.month_sub_one (hvalid : date.IsValid) :
    (ofDayNumber (date.dayNumber - 1)).month = date.month ↔ date.day ≠ 1 := by
  obtain ⟨year, month, day⟩ := date
  obtain ⟨hmonth, hlast, hday, hlength⟩ := hvalid
  dsimp only at hmonth hlast hday hlength ⊢
  have hfound (previous : Date) (hprevious : previous.IsValid)
      (hnumber : previous.dayNumber = (Date.mk year month day).dayNumber - 1) :
      (ofDayNumber ((Date.mk year month day).dayNumber - 1)).month = previous.month := by
    rw [← hnumber, hprevious.ofDayNumber_dayNumber]
  by_cases hfirst : day = 1
  · subst hfirst
    by_cases hjanuary : month = 1
    · subst hjanuary
      obtain ⟨hlong, hdecember⟩ := monthLength_december (year - 1)
      have hnext := yearStart_add_one (year - 1)
      have hzero : daysBeforeMonth year 1 = 0 := rfl
      rw [Int.sub_add_cancel] at hnext
      have hvalid : (Date.mk (year - 1) 12 31).IsValid := by
        simp only [IsValid, hlong]
        omega
      have hnumber : (Date.mk (year - 1) 12 31).dayNumber = (Date.mk year 1 1).dayNumber - 1 := by
        simp only [dayNumber, monthStart, hzero]
        omega
      simp [hfound _ hvalid hnumber]
    · have hstep := daysBeforeMonth_add_one year (show 1 ≤ month - 1 by omega) (by omega)
      have hlong := (monthLength_bounds year (show 1 ≤ month - 1 by omega) (by omega)).1
      rw [Nat.sub_add_cancel hmonth] at hstep
      have hvalid : (Date.mk year (month - 1) (monthLength year (month - 1))).IsValid := by
        simp only [IsValid]
        omega
      have hnumber : (Date.mk year (month - 1) (monthLength year (month - 1))).dayNumber =
          (Date.mk year month 1).dayNumber - 1 := by
        simp only [dayNumber, monthStart]
        omega
      have hother : month - 1 ≠ month := by omega
      simp [hfound _ hvalid hnumber, hother]
  · have hvalid : (Date.mk year month (day - 1)).IsValid := by
      simp only [IsValid]
      omega
    have hnumber : (Date.mk year month (day - 1)).dayNumber =
        (Date.mk year month day).dayNumber - 1 := by
      simp only [dayNumber]
      omega
    simp [hfound _ hvalid hnumber, hfirst]

end Date

/-! ### Instants -/

namespace Instant

theorem millis_ofMillis (millis : Int) : (ofMillis millis).millis = millis :=
  Int.mul_ediv_cancel millis (by decide)

theorem date_ofMillis (millis : Int) :
    (ofMillis millis).date = .ofDayNumber (millis / millisPerDay) := by
  have hday : millis * nanosPerMilli / nanosPerDay = millis / millisPerDay :=
    Int.mul_ediv_mul_of_pos_left millis millisPerDay (by decide)
  rw [date, ofMillis, hday]

/-- The calendar covers an instant exactly if it has the year. -/
theorem isCovered_iff {t : Instant} :
    t.IsCovered ↔ -9999 ≤ t.date.year ∧ t.date.year ≤ 9999 := by
  have hfirst : (Date.mk (-9999) 1 1).dayNumber = yearStart (-9999) - epochStart := by decide
  have hnext : (Date.mk 10000 1 1).dayNumber = yearStart 10000 - epochStart := by decide
  have hfrom := Date.le_year_ofDayNumber_iff (-9999) (t.nanos / nanosPerDay)
  have hto := Date.le_year_ofDayNumber_iff 10000 (t.nanos / nanosPerDay)
  rw [IsCovered, earliest, latest, hfirst, hnext, date]
  simp only [nanosPerDay, nanosPerSecond] at hfrom hto ⊢
  omega

end Instant

end DotQuery.Calendar

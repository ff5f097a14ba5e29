import DotQuery.Calendar.Reading
import DotQuery.Proofs.Digits
import Mathlib.Data.List.TakeWhile
import Mathlib.Tactic.IntervalCases

/-!
# Where written dates leave the calendar

A written date is taken from a year that the calendar covers. Without an offset its instant stays in
that year, and with one it moves by less than a day. So only a timestamp of the very last day leaves
the calendar, if the offset of its clock carries it beyond midnight.
-/

namespace DotQuery.Calendar

/-! ### Days of a year -/

theorem daysBeforeMonth_add_monthLength_le (year : Int) {month : Nat} (hmonth : 1 ≤ month)
    (hlast : month ≤ 12) : daysBeforeMonth year month + monthLength year month ≤ 366 := by
  unfold daysBeforeMonth monthLength
  generalize isLeapYear year = leap
  interval_cases month <;> cases leap <;> decide

theorem yearStart_add_one_le (year : Int) : yearStart year + 365 ≤ yearStart (year + 1) := by
  unfold yearStart
  omega

theorem yearStart_mono {year later : Int} (hle : year ≤ later) :
    yearStart year + 365 * (later - year) ≤ yearStart later := by
  induction later, hle using Int.leInduction with
  | base => omega
  | succ later _ ih =>
      have hstep := yearStart_add_one_le later
      omega

namespace Date

variable {date : Date}

theorem IsValid.dayNumber_bounds (hvalid : date.IsValid) :
    yearStart date.year - epochStart ≤ date.dayNumber ∧
      date.dayNumber ≤ yearStart date.year + 365 - epochStart := by
  obtain ⟨hmonth, hlast, hday, hlength⟩ := hvalid
  have hyear := daysBeforeMonth_add_monthLength_le date.year hmonth hlast
  unfold dayNumber monthStart
  omega

/-- Within the years of the calendar a date other than the last one is followed by a day. -/
theorem IsValid.dayNumber_lt (hvalid : date.IsValid) (hyear : date.year ≤ 9999)
    (hne : date ≠ ⟨9999, 12, 31⟩) : date.dayNumber + 2 ≤ (Date.mk 10000 1 1).dayNumber := by
  by_cases hlast : date.year = 9999
  · obtain ⟨year, month, day⟩ := date
    obtain ⟨hmonth, htwelve, hday, hlength⟩ := hvalid
    subst hlast
    dsimp only at hmonth htwelve hday hlength
    have hsum : daysBeforeMonth 9999 month + day ≤ 364 := by
      by_cases hdecember : month = 12
      · subst hdecember
        have hbefore : daysBeforeMonth 9999 12 = 334 := by decide
        have hdays : monthLength 9999 12 = 31 := by decide
        have hday31 : day ≠ 31 := fun heq => hne (heq ▸ rfl)
        omega
      · have hbefore : daysBeforeMonth 9999 month + monthLength 9999 month ≤ 334 := by
          have heleven : month ≤ 11 := by omega
          clear htwelve hdecember hlength hne
          interval_cases month <;> decide
        omega
    have hthis : yearStart 9999 + 365 = yearStart 10000 := by decide
    have hnext : daysBeforeMonth 10000 1 = 0 := by decide
    simp only [dayNumber, monthStart, hnext]
    omega
  · have hbound := hvalid.dayNumber_bounds.2
    have hmono := yearStart_mono (show date.year ≤ 9998 by omega)
    have hend : yearStart 9998 + 730 ≤ yearStart 10000 := by decide
    have hnext : daysBeforeMonth 10000 1 = 0 := by decide
    simp only [dayNumber, monthStart, hnext] at hbound ⊢
    omega

end Date

/-! ### Reading -/

section Readers

variable {α β : Type} {n : Nat} {c : Char} {text rest : List Char}

theorem bind_eq_some_iff {reader : Reader α} {next : α → Reader β} {b : β} :
    (reader >>= next) text = some (b, rest) ↔
      ∃ a mid, reader text = some (a, mid) ∧ next a mid = some (b, rest) := by
  have hbind : (reader >>= next) text = (reader text).bind fun part => next part.1 part.2 := rfl
  rw [hbind, Option.bind_eq_some_iff, Prod.exists]

theorem pure_eq_some_iff {a b : α} :
    (pure a : Reader α) text = some (b, rest) ↔ a = b ∧ text = rest := by
  have hpure : (pure a : Reader α) text = some (a, text) := rfl
  rw [hpure, Option.some.injEq, Prod.mk.injEq]

theorem failure_ne_some {b : α} : (failure : Reader α) text ≠ some (b, rest) := nofun

theorem character_eq_some_iff {accepts : Char → Bool} :
    character accepts text = some (c, rest) ↔ text = c :: rest ∧ accepts c = true := by
  cases text with
  | nil => simp [character]
  | cons first tail =>
      rw [List.cons.injEq, character]
      split
      · next haccepts =>
          rw [Option.some.injEq, Prod.mk.injEq]
          exact ⟨fun ⟨hc, hrest⟩ => ⟨⟨hc, hrest⟩, hc ▸ haccepts⟩, fun h => h.1⟩
      · next hrefuses =>
          exact ⟨nofun, fun ⟨⟨hc, _⟩, haccepts⟩ => absurd (hc ▸ haccepts) hrefuses⟩

theorem literal_eq_some_iff {u : Unit} :
    literal c text = some (u, rest) ↔ text = c :: rest := by
  unfold literal
  simp only [bind_eq_some_iff, character_eq_some_iff, pure_eq_some_iff, beq_iff_eq]
  constructor
  · rintro ⟨_, _, ⟨htext, rfl⟩, -, rfl⟩
    exact htext
  · exact fun htext => ⟨c, rest, ⟨htext, rfl⟩, trivial, rfl⟩

theorem eq_of_digit (hdigit : digit text = some (n, rest)) :
    n ≤ 9 ∧ text = n.digitChar :: rest := by
  unfold digit at hdigit
  simp only [bind_eq_some_iff, character_eq_some_iff, pure_eq_some_iff] at hdigit
  obtain ⟨c, _, ⟨rfl, hc⟩, hvalue, rfl⟩ := hdigit
  have hzero : '0'.toNat = 48 := rfl
  have hbounds := Text.toNat_of_isDigit hc
  have hn : n ≤ 9 := by omega
  have hc : c = Char.ofNat (48 + n) := by
    rw [← Char.ofNat_toNat c]
    congr 1
    omega
  refine ⟨hn, ?_⟩
  rw [hc]
  clear hc hvalue hbounds
  interval_cases n <;> rfl

theorem not_blank_digitChar (hn : n ≤ 9) : Text.isBlank n.digitChar = false := by
  interval_cases n <;> decide

/-- A number below a hundred in two digits. -/
def inTwoDigits (n : Nat) : List Char :=
  [(n / 10).digitChar, (n % 10).digitChar]

theorem eq_of_twoDigits (htwo : twoDigits text = some (n, rest)) :
    n ≤ 99 ∧ text = inTwoDigits n ++ rest := by
  unfold twoDigits at htwo
  simp only [bind_eq_some_iff, pure_eq_some_iff] at htwo
  obtain ⟨tens, _, htens, ones, _, hones, rfl, rfl⟩ := htwo
  obtain ⟨hten, rfl⟩ := eq_of_digit htens
  obtain ⟨hone, rfl⟩ := eq_of_digit hones
  refine ⟨by omega, ?_⟩
  have hdiv : (10 * tens + ones) / 10 = tens := by omega
  have hmod : (10 * tens + ones) % 10 = ones := by omega
  rw [inTwoDigits, hdiv, hmod]
  rfl

theorem eq_of_fourDigits (hfour : fourDigits text = some (n, rest)) :
    n ≤ 9999 ∧ text = inTwoDigits (n / 100) ++ inTwoDigits (n % 100) ++ rest := by
  unfold fourDigits at hfour
  simp only [bind_eq_some_iff, pure_eq_some_iff] at hfour
  obtain ⟨high, _, hhigh, low, _, hlow, rfl, rfl⟩ := hfour
  obtain ⟨hhundreds, rfl⟩ := eq_of_twoDigits hhigh
  obtain ⟨hrest, rfl⟩ := eq_of_twoDigits hlow
  refine ⟨by omega, ?_⟩
  have hdiv : (100 * high + low) / 100 = high := by omega
  have hmod : (100 * high + low) % 100 = low := by omega
  rw [hdiv, hmod, List.append_assoc]

theorem eq_of_dateAfterYear {year : Int} {date : Date}
    (hdate : dateAfterYear year text = some (date, rest)) :
    date.IsValid ∧ date.year = year ∧
      text = '-' :: inTwoDigits date.month ++ '-' :: inTwoDigits date.day ++ rest := by
  unfold dateAfterYear at hdate
  simp only [bind_eq_some_iff, literal_eq_some_iff] at hdate
  obtain ⟨-, _, rfl, month, _, hmonth, -, _, rfl, day, _, hday, hdate⟩ := hdate
  obtain ⟨-, rfl⟩ := eq_of_twoDigits hmonth
  obtain ⟨-, rfl⟩ := eq_of_twoDigits hday
  split at hdate
  · next hvalid =>
      obtain ⟨rfl, rfl⟩ := pure_eq_some_iff.mp hdate
      exact ⟨hvalid, rfl, by simp⟩
  · exact absurd hdate failure_ne_some

theorem eq_of_unsignedDate {date : Date} (hdate : unsignedDate text = some (date, rest)) :
    date.IsValid ∧ ∃ year : Nat, date.year = year ∧ year ≤ 9999 ∧
      text = inTwoDigits (year / 100) ++ inTwoDigits (year % 100) ++
        '-' :: inTwoDigits date.month ++ '-' :: inTwoDigits date.day ++ rest := by
  unfold unsignedDate at hdate
  obtain ⟨year, after, hyear, hafter⟩ := bind_eq_some_iff.mp hdate
  obtain ⟨hle, rfl⟩ := eq_of_fourDigits hyear
  obtain ⟨hvalid, heq, rfl⟩ := eq_of_dateAfterYear hafter
  exact ⟨hvalid, year, heq, hle, by simp⟩

theorem bounds_of_signedDate {date : Date} (hdate : signedDate text = some (date, rest)) :
    date.IsValid ∧ -9999 ≤ date.year ∧ date.year ≤ 9999 := by
  have hunsigned {after : List Char} (hdate : unsignedDate after = some (date, rest)) :
      date.IsValid ∧ -9999 ≤ date.year ∧ date.year ≤ 9999 := by
    obtain ⟨hvalid, year, hyear, hle, -⟩ := eq_of_unsignedDate hdate
    exact ⟨hvalid, by omega, by omega⟩
  unfold signedDate at hdate
  split at hdate
  · exact hunsigned hdate
  · obtain ⟨year, _, hyear, hdate⟩ := bind_eq_some_iff.mp hdate
    obtain ⟨hle, -⟩ := eq_of_fourDigits hyear
    obtain ⟨hvalid, heq, -⟩ := eq_of_dateAfterYear hdate
    exact ⟨hvalid, by omega, by omega⟩
  · exact hunsigned hdate

theorem bounds_of_clock {lastSecond hour minute second : Nat}
    (hclock : clock lastSecond text = some ((hour, minute, second), rest)) :
    hour ≤ 23 ∧ minute ≤ 59 ∧ second ≤ lastSecond := by
  unfold clock at hclock
  simp only [bind_eq_some_iff] at hclock
  obtain ⟨h, _, -, -, _, -, m, _, -, -, _, -, s, _, -, hclock⟩ := hclock
  split at hclock
  · next hbounds =>
      cases (pure_eq_some_iff.mp hclock).1
      exact hbounds
  · exact absurd hclock failure_ne_some

theorem fractionValue_le {digits : List Char} (hdigits : ∀ c ∈ digits, c.isDigit = true)
    (scale : Nat) : fractionValue scale digits ≤ scale - 1 := by
  induction digits generalizing scale with
  | nil => exact Nat.zero_le _
  | cons c rest ih =>
      rw [List.forall_mem_cons] at hdigits
      have hdigit : c.toNat - '0'.toNat ≤ 9 := by
        have hzero : '0'.toNat = 48 := rfl
        have hbounds := Text.toNat_of_isDigit hdigits.1
        omega
      have hfirst := Nat.mul_le_mul_right (scale / 10) hdigit
      have hrest := ih hdigits.2 (scale / 10)
      rw [fractionValue]
      omega

theorem lt_of_fraction {nanos : Nat} (hfraction : fraction text = some (nanos, rest)) :
    nanos < 1000000000 := by
  unfold fraction at hfraction
  dsimp only at hfraction
  split at hfraction
  · cases hfraction
  · cases hfraction
    have hdigits : ∀ c ∈ text.takeWhile Char.isDigit, c.isDigit = true :=
      fun c hmem => List.mem_takeWhile_imp hmem
    have hle := fractionValue_le hdigits 1000000000
    omega

theorem lt_of_optionalFraction {nanos : Nat}
    (hfraction : optionalFraction text = some (nanos, rest)) : nanos < 1000000000 := by
  unfold optionalFraction at hfraction
  split at hfraction
  · exact lt_of_fraction hfraction
  · cases hfraction
    decide

theorem bounds_of_offset {seconds : Int} (hoffset : offset text = some (seconds, rest)) :
    -86400 < seconds ∧ seconds < 86400 := by
  unfold offset at hoffset
  obtain ⟨mark, _, -, hoffset⟩ := bind_eq_some_iff.mp hoffset
  split at hoffset
  · obtain ⟨rfl, -⟩ := pure_eq_some_iff.mp hoffset
    decide
  · simp only [bind_eq_some_iff] at hoffset
    obtain ⟨hours, _, -, -, _, -, minutes, _, -, hoffset⟩ := hoffset
    split at hoffset
    · next hbounds =>
        obtain ⟨rfl, -⟩ := pure_eq_some_iff.mp hoffset
        split <;> omega
    · exact absurd hoffset failure_ne_some

end Readers

/-! ### Covered dates -/

section Covered

variable {date : Date} {hour minute second nanos : Nat}

theorem wallOf_bounds (date : Date) (hhour : hour ≤ 23) (hminute : minute ≤ 59)
    (hsecond : second ≤ 59) (hnanos : nanos < 1000000000) :
    date.dayNumber * nanosPerDay ≤ wallOf date hour minute second nanos ∧
      wallOf date hour minute second nanos < (date.dayNumber + 1) * nanosPerDay := by
  simp only [wallOf, nanosPerDay, nanosPerSecond]
  omega

/-- An offset moves a written date by less than a day. So it stays in the calendar unless it is of
the last day on a clock that is behind UTC; no date with an offset is of the first years. -/
theorem isCovered_of_isValid {offset : Int} (hvalid : date.IsValid) (hhour : hour ≤ 23)
    (hminute : minute ≤ 59) (hsecond : second ≤ 59) (hnanos : nanos < 1000000000)
    (hoffset : -86400 < offset ∧ offset < 86400) (hto : date.year ≤ 9999)
    (hfrom : 0 ≤ date.year ∨ -9999 ≤ date.year ∧ offset ≤ 0)
    (hlast : date ≠ ⟨9999, 12, 31⟩ ∨ 0 ≤ offset) :
    (Moment.mk (wallOf date hour minute second nanos) offset).instant.IsCovered := by
  have hwall := wallOf_bounds date hhour hminute hsecond hnanos
  have hday := hvalid.dayNumber_bounds.1
  refine ⟨?_, ?_⟩
  · have hfirst : (Date.mk (-9999) 1 1).dayNumber = yearStart (-9999) - epochStart := by decide
    simp only [earliest, hfirst, Moment.instant, nanosPerDay, nanosPerSecond] at hwall ⊢
    rcases hfrom with hzero | ⟨hfrom, hbehind⟩
    · have hmono := yearStart_mono (show -9999 ≤ date.year by omega)
      omega
    · have hmono := yearStart_mono hfrom
      omega
  · simp only [latest, Moment.instant, nanosPerDay, nanosPerSecond] at hwall ⊢
    by_cases heq : date = ⟨9999, 12, 31⟩
    · have hahead := hlast.resolve_left (not_not_intro heq)
      have hnext : date.dayNumber + 1 = (Date.mk 10000 1 1).dayNumber := by
        rw [heq]
        decide
      omega
    · have hnext := hvalid.dayNumber_lt hto heq
      omega

end Covered

/-! ### Dates that leave the calendar -/

section Moments

variable {moment : Moment} {text rest : List Char}

theorem isCovered_of_plainDate (hread : plainDate text = some (moment, rest)) :
    moment.instant.IsCovered := by
  unfold plainDate at hread
  simp only [bind_eq_some_iff, pure_eq_some_iff] at hread
  obtain ⟨date, _, hdate, -, _, -, rfl, -⟩ := hread
  obtain ⟨hvalid, hfrom, hto⟩ := bounds_of_signedDate hdate
  exact isCovered_of_isValid hvalid (by decide) (by decide) (by decide) (by decide) (by decide) hto
    (.inr ⟨hfrom, le_rfl⟩) (.inr le_rfl)

theorem isCovered_of_plainDateTime {separator : Char} {fractional : Bool}
    (hread : plainDateTime separator fractional text = some (moment, rest)) :
    moment.instant.IsCovered := by
  unfold plainDateTime at hread
  simp only [bind_eq_some_iff] at hread
  obtain ⟨date, _, hdate, -, _, -, ⟨hour, minute, second⟩, _, hclock, hread⟩ := hread
  have hmoment : ∃ nanos < 1000000000, moment = ⟨wallOf date hour minute second nanos, 0⟩ := by
    split at hread
    · simp only [bind_eq_some_iff, pure_eq_some_iff] at hread
      obtain ⟨nanos, _, ⟨-, _, -, hnanos⟩, -, _, -, rfl, -⟩ := hread
      exact ⟨nanos, lt_of_fraction hnanos, rfl⟩
    · simp only [bind_eq_some_iff, pure_eq_some_iff] at hread
      obtain ⟨_, _, ⟨rfl, -⟩, -, _, -, rfl, -⟩ := hread
      exact ⟨0, by decide, rfl⟩
  obtain ⟨nanos, hnanos, rfl⟩ := hmoment
  obtain ⟨hvalid, hfrom, hto⟩ := bounds_of_signedDate hdate
  obtain ⟨hhour, hminute, hsecond⟩ := bounds_of_clock hclock
  exact isCovered_of_isValid hvalid hhour hminute hsecond hnanos (by decide) hto
    (.inr ⟨hfrom, le_rfl⟩) (.inr le_rfl)

/-- The last day of the calendar as it is written in a timestamp. -/
def lastDay : List Char := ['9', '9', '9', '9', '-', '1', '2', '-', '3', '1']

theorem isCovered_of_admitsLeapSecond {t : Instant} (hleap : admitsLeapSecond t = true) :
    t.IsCovered := by
  simp only [admitsLeapSecond, Bool.and_eq_true, decide_eq_true_eq] at hleap
  exact hleap.1.1.1.1

theorem lastDay_of_timestamp (hread : timestamp text = some (moment, rest))
    (hleaves : ¬moment.instant.IsCovered) : lastDay <+: text ∧ moment.offset < 0 := by
  unfold timestamp at hread
  simp only [bind_eq_some_iff] at hread
  obtain ⟨date, after, hdate, -, _, -, ⟨hour, minute, second⟩, _, hclock, nanos, _, hnanos, offset,
    _, hoffset, -, _, -, hread⟩ := hread
  split at hread
  · -- a leap second is only read where the calendar covers it
    split at hread
    · next hleap =>
        obtain ⟨rfl, -⟩ := pure_eq_some_iff.mp hread
        exact absurd (isCovered_of_admitsLeapSecond hleap) hleaves
    · exact absurd hread failure_ne_some
  · next hordinary =>
      dsimp only at hordinary
      obtain ⟨rfl, -⟩ := pure_eq_some_iff.mp hread
      obtain ⟨hvalid, year, hyear, hle, rfl⟩ := eq_of_unsignedDate hdate
      obtain ⟨hhour, hminute, hsecond⟩ := bounds_of_clock hclock
      have hsafe : ¬(date ≠ ⟨9999, 12, 31⟩ ∨ 0 ≤ offset) := fun hsafe =>
        hleaves (isCovered_of_isValid hvalid hhour hminute (by omega)
          (lt_of_optionalFraction hnanos) (bounds_of_offset hoffset) (by omega)
          (.inl (by omega)) hsafe)
      rw [not_or, not_not, Int.not_le] at hsafe
      obtain ⟨rfl, hbehind⟩ := hsafe
      cases hyear
      exact ⟨⟨after, rfl⟩, hbehind⟩

theorem whole?_eq_some_iff {α : Type} {reader : Reader α} {a : α} :
    reader.whole? text = some a ↔ ∃ rest, reader text = some (a, rest) := by
  rw [Reader.whole?, Option.map_eq_some_iff]
  constructor
  · rintro ⟨⟨_, rest⟩, hread, rfl⟩
    exact ⟨rest, hread⟩
  · rintro ⟨rest, hread⟩
    exact ⟨_, hread, rfl⟩

/-- Only in the layout of a timestamp a date outside the calendar can be written. -/
theorem timestamp_of_ofText? (hread : Moment.ofText? text = some moment)
    (hleaves : ¬moment.instant.IsCovered) : timestamp.whole? text = some moment := by
  obtain ⟨layout, hlayout, hwhole⟩ := List.exists_of_findSome?_eq_some hread
  obtain ⟨rest, hlayoutRead⟩ := whole?_eq_some_iff.mp hwhole
  simp only [List.mem_cons, List.not_mem_nil, or_false] at hlayout
  rcases hlayout with rfl | rfl | rfl | rfl | rfl
  · exact hwhole
  · exact absurd (isCovered_of_plainDate hlayoutRead) hleaves
  · exact absurd (isCovered_of_plainDateTime hlayoutRead) hleaves
  · exact absurd (isCovered_of_plainDateTime hlayoutRead) hleaves
  · exact absurd (isCovered_of_plainDateTime hlayoutRead) hleaves

end Moments

/-- The value is a timestamp, white space at its ends apart, whose instant lies outside the years
that the calendar covers. -/
def LeavesCalendar (value : Json) : Prop :=
  ∃ text moment, value = .str text ∧ timestamp.whole? (Text.trim text.toList) = some moment ∧
    ¬moment.instant.IsCovered

theorem LeavesCalendar.lastDay {text : String} (hleaves : LeavesCalendar (.str text)) :
    Calendar.lastDay <+: Text.trim text.toList := by
  obtain ⟨_, moment, heq, hread, houtside⟩ := hleaves
  cases heq
  obtain ⟨rest, htimestamp⟩ := whole?_eq_some_iff.mp hread
  exact (lastDay_of_timestamp htimestamp houtside).1

theorem ofJson?_eq_error_iff {value : Json} :
    Instant.ofJson? value = .error .overflow ↔ LeavesCalendar value := by
  cases value with
  | str text =>
      constructor
      · intro hoverflow
        unfold Instant.ofJson? at hoverflow
        dsimp only at hoverflow
        split at hoverflow
        · next moment hread =>
            by_cases hcovered : moment.instant.IsCovered
            · simp [Moment.instant?, hcovered] at hoverflow
            · exact ⟨text, moment, rfl, timestamp_of_ofText? hread hcovered, hcovered⟩
        · cases hoverflow
      · rintro ⟨_, moment, heq, hread, houtside⟩
        cases heq
        have hfirst : Moment.ofText? (Text.trim text.toList) = some moment := by
          rw [Moment.ofText?, List.findSome?_cons, hread]
        simp only [Instant.ofJson?, hfirst, Moment.instant?, houtside, ↓reduceIte]
        rfl
  | _ =>
      constructor
      · rintro ⟨⟩
      · rintro ⟨_, _, ⟨⟩, -⟩

end DotQuery.Calendar

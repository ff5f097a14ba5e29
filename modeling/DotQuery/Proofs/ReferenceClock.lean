import DotQuery.Proofs.Ages
import DotQuery.Proofs.Cut
import DotQuery.Proofs.LastCall
import DotQuery.Proofs.Quoting
import DotQuery.Rules.Basic

/-!
# One instant on two clocks

Years, days and hours of an age only read instants. Its months also read the year that the clock
shows, so around the turn of a year two clocks of one instant can count them differently. A
reference date in the document is read in UTC and a given reference time keeps its offset, which is
how one text comes to stand for two such clocks.
-/

namespace DotQuery

namespace Calendar

variable {date : Date} {t : Instant} {now later : Moment}

/-! ### Clocks in different years -/

theorem age?_eq_of_year_eq {unit : DateUnit} (hsame : now.instant = later.instant)
    (hyear : unit = .months → now.year = later.year) (t : Instant) :
    age? t now unit = age? t later unit := by
  cases unit with
  | months => simp only [age?, hsame, hyear rfl]
  | _ => simp only [age?, hsame]

theorem Moment.InCalendar.year_eq_add_one (hnow : now.InCalendar) (hlater : later.InCalendar)
    (hsame : now.instant = later.instant) (hyear : now.year < later.year) :
    later.year = now.year + 1 := by
  have hend := hnow.millis_bounds.2
  have hstart := hlater.millis_bounds.1
  rw [hsame] at hend
  by_contra hne
  have hmono := yearStart_mono (show now.year + 1 ≤ later.year by omega)
  simp only [millisPerDay] at hstart hend
  omega

theorem anniversaryDay_add_one (hvalid : date.IsValid) (year : Int) :
    anniversaryDay (year + 1) date = anniversaryDay year date + 365 ∨
      anniversaryDay (year + 1) date = anniversaryDay year date + 366 := by
  have hnext := yearStart_add_one year
  have hdays (month : Nat) (hmonth : 1 ≤ month) (hlast : month ≤ 12) :
      yearLength year + daysBeforeMonth (year + 1) month = daysBeforeMonth year month + 365 ∨
        yearLength year + daysBeforeMonth (year + 1) month = daysBeforeMonth year month + 366 := by
    unfold yearLength daysBeforeMonth
    generalize isLeapYear year = leap, isLeapYear (year + 1) = leap'
    interval_cases month <;> cases leap <;> cases leap' <;> decide
  have hgap := hdays date.month hvalid.1 hvalid.2.1
  unfold anniversaryDay monthStart
  omega

theorem date_sinceAnniversary (t : Instant) (now : Moment) :
    (sinceAnniversary t now).date =
      .ofDayNumber (now.instant.millis / millisPerDay - anniversaryDay now.year t.date) := by
  rw [sinceAnniversary, Instant.date_ofMillis]
  congr 1
  unfold millisPerDay
  omega

theorem dayNumber_sinceAnniversary_bounds (hnow : now.InCalendar) (t : Instant) :
    -368 ≤ now.instant.millis / millisPerDay - anniversaryDay now.year t.date ∧
      now.instant.millis / millisPerDay - anniversaryDay now.year t.date ≤ 367 := by
  have hbounds := sinceAnniversary_bounds hnow t
  rw [sinceAnniversary, Instant.millis_ofMillis] at hbounds
  unfold millisPerDay at hbounds ⊢
  omega

/-- Around 1970 the same day of the year before has the same month and day. -/
theorem month_day_year_back {number : Int} (hfrom : -3 ≤ number) (hto : number ≤ 367) :
    (Date.ofDayNumber (number - 365)).month = (Date.ofDayNumber number).month ∧
      (Date.ofDayNumber (number - 365)).day = (Date.ofDayNumber number).day := by
  by_cases hwithin : 0 ≤ number ∧ number < 365
  · have hthis : yearStart 1970 = epochStart := rfl
    have hnext : yearStart (1970 + 1) = epochStart + 365 := by decide
    have hlast : yearStart 1969 = epochStart - 365 := by decide
    have hvalid := Date.isValid_ofDayNumber number
    have hnumber := Date.dayNumber_ofDayNumber number
    have hyear : (Date.ofDayNumber number).year = 1970 := by
      rw [Date.year_ofDayNumber_eq_iff]
      omega
    generalize Date.ofDayNumber number = date at hvalid hnumber hyear ⊢
    obtain ⟨year, month, day⟩ := date
    obtain rfl : year = 1970 := hyear
    have hback : (Date.mk 1969 month day).IsValid := hvalid
    have hsame : daysBeforeMonth 1969 month = daysBeforeMonth 1970 month := rfl
    have hday : (Date.mk 1969 month day).dayNumber = number - 365 := by
      rw [← hnumber]
      simp only [Date.dayNumber, monthStart, hsame]
      omega
    rw [← hday, hback.ofDayNumber_dayNumber]
    exact ⟨rfl, rfl⟩
  · -- the days next to the two years
    have hends : number = -3 ∨ number = -2 ∨ number = -1 ∨ number = 365 ∨ number = 366 ∨
        number = 367 := by omega
    rcases hends with rfl | rfl | rfl | rfl | rfl | rfl <;> decide

/-- A leap year back is one day more, which is in the same month but for the first of a month. -/
theorem month_leap_year_back {number : Int} (hfrom : -3 ≤ number) (hto : number ≤ 367) :
    (Date.ofDayNumber (number - 366)).month = (Date.ofDayNumber number).month ↔
      (Date.ofDayNumber number).day ≠ 1 := by
  obtain ⟨hmonth, hday⟩ := month_day_year_back hfrom hto
  have hbefore := (Date.isValid_ofDayNumber (number - 365)).month_sub_one
  rw [Date.dayNumber_ofDayNumber, Int.sub_sub, hmonth, hday] at hbefore
  exact hbefore

/-- A leap day lies between the two anniversaries, and the time since the earlier one ends on the
first day of a month. -/
def CrossesMonth (t : Instant) (now later : Moment) : Prop :=
  now.year < later.year ∧
    anniversaryDay later.year t.date = anniversaryDay now.year t.date + 366 ∧
    (sinceAnniversary t now).date.day = 1

instance (t : Instant) (now later : Moment) : Decidable (CrossesMonth t now later) :=
  inferInstanceAs (Decidable (_ ∧ _))

theorem month_sinceAnniversary_eq_iff (hnow : now.InCalendar) (hlater : later.InCalendar)
    (hsame : now.instant = later.instant) (hyear : now.year ≤ later.year) (t : Instant) :
    (sinceAnniversary t later).date.month = (sinceAnniversary t now).date.month ↔
      ¬CrossesMonth t now later := by
  unfold CrossesMonth
  rcases Int.lt_or_eq_of_le hyear with hlt | heq
  · have hvalid : t.date.IsValid := Date.isValid_ofDayNumber _
    have hnext := hnow.year_eq_add_one hlater hsame hlt
    have hbounds := dayNumber_sinceAnniversary_bounds hnow t
    have hbounds' := dayNumber_sinceAnniversary_bounds hlater t
    rw [← hsame, hnext] at hbounds'
    rw [date_sinceAnniversary, date_sinceAnniversary, ← hsame, hnext]
    generalize hnumber : now.instant.millis / millisPerDay - anniversaryDay now.year t.date = number
      at hbounds ⊢
    rcases anniversaryDay_add_one hvalid now.year with hcommon | hleap
    · have hback : now.instant.millis / millisPerDay - anniversaryDay (now.year + 1) t.date =
          number - 365 := by omega
      have hmonth := (month_day_year_back (show -3 ≤ number by omega) hbounds.2).1
      rw [hback]
      simp [hmonth, hcommon]
    · have hback : now.instant.millis / millisPerDay - anniversaryDay (now.year + 1) t.date =
          number - 366 := by omega
      have hmonth := month_leap_year_back (show -3 ≤ number by omega) hbounds.2
      rw [hback, hmonth]
      simp [hleap]
  · simp [sinceAnniversary, hsame, heq]

/-- Two clocks of one instant give every age alike, apart from months that are counted from
anniversaries in different years. -/
theorem age?_eq_iff (hnow : now.InCalendar) (hlater : later.InCalendar)
    (hsame : now.instant = later.instant) (hyear : now.year ≤ later.year) (t : Instant)
    (unit : DateUnit) :
    age? t now unit = age? t later unit ↔
      ¬(unit = .months ∧ CrossesMonth t now later ∧ age? t now .years ≠ none) := by
  by_cases hunit : unit = .months
  · subst hunit
    have hmonth := month_sinceAnniversary_eq_iff hnow hlater hsame hyear t
    have hyears : age? t now .years = elapsedYears? (now.instant.millis - t.millis) := rfl
    rw [age?_months_eq hnow, age?_months_eq hlater, hyears, ← hsame]
    cases elapsedYears? (now.instant.millis - t.millis) with
    | none => simp
    | some years =>
        simp only [Option.map_some, Option.some.injEq, ne_eq, reduceCtorEq, not_false_eq_true,
          and_true, true_and, ← hmonth]
        omega
  · have hages := age?_eq_of_year_eq hsame (fun heq => absurd heq hunit) t
    simp [hages, hunit]

/-! ### Timestamps in a document -/

section Timestamps

variable {text rest : List Char}

theorem suffix_of_clock {lastSecond : Nat} {time : Nat × Nat × Nat}
    (hclock : clock lastSecond text = some (time, rest)) : rest <:+ text := by
  unfold clock at hclock
  simp only [bind_eq_some_iff, literal_eq_some_iff] at hclock
  obtain ⟨hour, _, hhour, -, _, rfl, minute, _, hminute, -, _, rfl, second, _, hsecond, hclock⟩ :=
    hclock
  obtain ⟨-, rfl⟩ := eq_of_twoDigits hhour
  obtain ⟨-, rfl⟩ := eq_of_twoDigits hminute
  obtain ⟨-, rfl⟩ := eq_of_twoDigits hsecond
  split at hclock
  · obtain ⟨-, rfl⟩ := pure_eq_some_iff.mp hclock
    exact ⟨inTwoDigits hour ++ ':' :: inTwoDigits minute ++ ':' :: inTwoDigits second, by simp⟩
  · exact absurd hclock failure_ne_some

theorem suffix_of_optionalFraction {nanos : Nat}
    (hfraction : optionalFraction text = some (nanos, rest)) : rest <:+ text := by
  unfold optionalFraction at hfraction
  split at hfraction
  · next behind =>
      unfold fraction at hfraction
      dsimp only at hfraction
      split at hfraction
      · cases hfraction
      · cases hfraction
        exact (List.dropWhile_suffix _).trans (List.suffix_cons _ _)
  · cases hfraction
    exact List.suffix_rfl

theorem last_of_offset {seconds : Int} (hoffset : offset text = some (seconds, [])) :
    ∃ front c, text = front ++ [c] ∧ Text.isBlank c = false := by
  unfold offset at hoffset
  simp only [bind_eq_some_iff, character_eq_some_iff] at hoffset
  obtain ⟨mark, after, ⟨rfl, -⟩, hmark⟩ := hoffset
  split at hmark
  · next hzulu =>
      obtain ⟨-, rfl⟩ := pure_eq_some_iff.mp hmark
      rw [Bool.or_eq_true, beq_iff_eq, beq_iff_eq] at hzulu
      refine ⟨[], mark, rfl, ?_⟩
      rcases hzulu with rfl | rfl <;> decide
  · simp only [bind_eq_some_iff, literal_eq_some_iff] at hmark
    obtain ⟨hours, _, hhours, -, _, rfl, minutes, _, hminutes, hmark⟩ := hmark
    obtain ⟨-, rfl⟩ := eq_of_twoDigits hhours
    obtain ⟨hbound, rfl⟩ := eq_of_twoDigits hminutes
    split at hmark
    · obtain ⟨-, rfl⟩ := pure_eq_some_iff.mp hmark
      refine ⟨mark :: inTwoDigits hours ++ [':', (minutes / 10).digitChar],
        (minutes % 10).digitChar, by simp [inTwoDigits], not_blank_digitChar (by omega)⟩
    · exact absurd hmark failure_ne_some

/-- A timestamp starts with a digit and ends with a digit or a letter. -/
theorem trim_of_timestamp (hread : timestamp text = some (now, rest)) :
    Text.trim text = text := by
  unfold timestamp at hread
  simp only [bind_eq_some_iff] at hread
  obtain ⟨date, after, hdate, separator, behind, hseparator, time, point, hclock, nanos, zone,
    hfraction, seconds, last, hoffset, _, _, hending, -⟩ := hread
  obtain ⟨hafter, -⟩ := character_eq_some_iff.mp hseparator
  obtain ⟨-, year, -, hyear, htext⟩ := eq_of_unsignedDate hdate
  have hlast : last = [] := by
    cases last with
    | nil => rfl
    | cons c last => cases hending
  rw [hlast] at hoffset
  obtain ⟨front, c, hzone, hc⟩ := last_of_offset hoffset
  have hbehind : zone <:+ behind :=
    (suffix_of_optionalFraction hfraction).trans (suffix_of_clock hclock)
  have hsuffix : zone <:+ text :=
    (hbehind.trans (hafter ▸ List.suffix_cons _ _)).trans (htext ▸ List.suffix_append _ _)
  apply Text.trim_eq_self
  · intro first hfirst
    rw [htext] at hfirst
    obtain rfl := Option.some.inj hfirst
    exact not_blank_digitChar (by omega)
  · obtain ⟨before, rfl⟩ := hsuffix
    intro last hmem
    rw [hzone, ← List.append_assoc, List.getLast?_concat] at hmem
    obtain rfl := Option.some.inj hmem
    exact hc

/-- The text of a reference time is a date wherever the calendar covers its instant. -/
theorem ofJson?_of_readReferenceTime {clock : String} (hclock : readReferenceTime clock = .ok now)
    (hcovered : now.instant.IsCovered) :
    Instant.ofJson? (.str clock) = .ok (some now.instant) := by
  unfold readReferenceTime at hclock
  split at hclock
  · next moment hread =>
      cases hclock
      obtain ⟨rest, htimestamp⟩ := whole?_eq_some_iff.mp hread
      have hfirst : Moment.ofText? (Text.trim clock.toList) = some now := by
        rw [trim_of_timestamp htimestamp, Moment.ofText?, List.findSome?_cons]
        unfold Moment.ofTimestamp? at hread
        rw [hread]
      simp only [Instant.ofJson?, hfirst, Moment.instant?, if_pos hcovered]
      rfl
  · cases hclock

end Timestamps

end Calendar

open Calendar Query Attempt

/-! ### Ages in a query -/

namespace Query.Call

/-- An age as it is written, with a unit and possibly a reference date as its argument. -/
def age (argument : String) : Call :=
  ⟨.age, argument, "age(" ++ argument ++ ")"⟩

/-- What can stand before or behind the comma of an argument. -/
structure IsPart (text : String) : Prop where
  plain : ',' ∉ text.toList
  balanced : Balanced text.toList

theorem age_wellFormed {argument : String}
    (hargument : Text.isAllBlank argument.toList = false) (hbalanced : Balanced argument.toList) :
    (Segment.call (age argument)).WellFormed ∧ (Segment.call (age argument)).Enclosed := by
  refine ⟨.call rfl fun hblank => ?_, hbalanced⟩
  rw [age, hargument] at hblank
  cases hblank

theorem age_append_wellFormed {fmt reference : String} (hfmt : IsPart fmt)
    (hreference : IsPart reference) :
    (Segment.call (age (fmt ++ "," ++ reference))).WellFormed ∧
      (Segment.call (age (fmt ++ "," ++ reference))).Enclosed := by
  have htext : (fmt ++ "," ++ reference).toList = fmt.toList ++ ',' :: reference.toList := by simp
  have hcomma : Text.isBlank ',' = false := by decide
  apply age_wellFormed
  · rw [htext, Text.isAllBlank, List.all_append, List.all_cons, hcomma, Bool.false_and,
      Bool.and_false]
  · rw [htext]
    exact hfmt.balanced.append (.plain (by decide) hreference.balanced)

end Query.Call

namespace Dates

variable {fmt reference : String}

theorem unit?_append (hfmt : ',' ∉ fmt.toList) (reference : String) :
    unit? (fmt ++ "," ++ reference) = unit? fmt := by
  have htext : (fmt ++ "," ++ reference).toList = fmt.toList ++ ',' :: reference.toList := by simp
  rw [unit?, unit?, htext, Text.separate_append_cons hfmt, Text.separate_of_not_mem hfmt]

theorem reference?_of_not_mem (hfmt : ',' ∉ fmt.toList) : reference? fmt = none := by
  rw [reference?, Text.fields, Text.separate_of_not_mem hfmt]

theorem reference?_append (hfmt : ',' ∉ fmt.toList) (hreference : ',' ∉ reference.toList)
    (hpath : Text.trimmed reference ≠ "") :
    reference? (fmt ++ "," ++ reference) = some (Text.trimmed reference) := by
  have htext : (fmt ++ "," ++ reference).toList = fmt.toList ++ ',' :: reference.toList := by simp
  have hnonempty : (Text.trim reference.toList).isEmpty = false := by
    rw [List.isEmpty_eq_false_iff]
    intro hempty
    exact hpath (by rw [Text.trimmed, hempty])
  simp only [reference?, htext, Text.fields, Text.separate_append_cons hfmt,
    Text.separate_of_not_mem hreference, hnonempty]
  rfl

end Dates

namespace Context

variable {ctx : Context} {now later : Moment} {first second : String}

theorem agree_instantOf {cause cause' : Cause} (hkind : cause.kind = cause'.kind)
    (value : Option Json) : Agree (Dates.instantOf cause value) (Dates.instantOf cause' value) := by
  have hcause : (Failure.error cause).kind = (Failure.error cause').kind :=
    congrArg Failure.error hkind
  unfold Dates.instantOf
  split
  · exact .failure hcause
  · exact .failure hcause
  · exact .value _
  · exact .failure rfl

section Calls

variable {left right : Context} {call other : Call} (hoperator : call.operator = other.operator)
include hoperator

theorem agree_stamp {unit : DateUnit} (hages : ∀ t, age? t now unit = age? t later unit)
    (value : Option Json) :
    Agree (Dates.stamp call unit now value) (Dates.stamp other unit later value) := by
  have hkind : (Cause.invalidDate call.raw).kind = (Cause.invalidDate other.raw).kind := rfl
  refine (agree_instantOf hkind value).bind fun t => ?_
  rw [hoperator, hages t]
  split
  · exact .refl _
  · cases age? t later unit with
    | none => exact .failure rfl
    | some age => exact .value _

/-- Two ages, or two dates, in the same unit do the same to every value if the times that they are
measured to give the same ages. -/
theorem agree_dates (hunit : Dates.unit? call.argument = Dates.unit? other.argument)
    (hcall : Dates.referenceMoment left call = .ok now)
    (hother : Dates.referenceMoment right other = .ok later)
    (hages : ∀ unit, Dates.unit? call.argument = some unit →
      ∀ t, age? t now unit = age? t later unit)
    (base : Option Json) :
    Agree (Dates.evaluate left call base) (Dates.evaluate right other base) := by
  unfold Dates.evaluate
  rw [← hunit]
  cases hread : Dates.unit? call.argument with
  | none => exact .failure rfl
  | some unit =>
      have hstamp := agree_stamp hoperator (hages unit hread)
      rw [ofOption_some, ofOption_some, ok_bind, ok_bind, hcall, hother, ok_bind, ok_bind]
      split
      · exact (Agree.mapM _ fun item _ => hstamp (some item)).bind fun _ => .refl _
      · exact hstamp _

end Calls

theorem agree_age [Regex.Engine] (hunit : Dates.unit? first = Dates.unit? second)
    (hfirst : Dates.referenceMoment ctx (.age first) = .ok now)
    (hsecond : Dates.referenceMoment ctx (.age second) = .ok later)
    (hages : ∀ unit, Dates.unit? first = some unit → ∀ t, age? t now unit = age? t later unit)
    (base : Option Json) :
    Agree (ctx.stepCall (.age first) base) (ctx.stepCall (.age second) base) := by
  have hoperator : (Call.age first).operator = (Call.age second).operator := rfl
  change Agree (Dates.evaluate ctx (.age first) base) (Dates.evaluate ctx (.age second) base)
  exact agree_dates hoperator hunit hfirst hsecond hages base

end Context

namespace Outcome

variable {α : Type}

/-- What is left of an outcome when the wording of its failure is forgotten. -/
def kind (outcome : Outcome α) : Except (Failure Kind) α :=
  outcome.mapError (Failure.map QueryError.kind)

theorem kind_inQuery (query : String) (attempt : Attempt α) :
    kind (attempt.inQuery query) = attempt.mapError Failure.kind := by
  rcases attempt with (cause | _) | a <;> rfl

end Outcome

theorem Attempt.Agree.mapError_kind {α : Type} {left right : Attempt α}
    (hagree : Agree left right) : left.mapError Failure.kind = right.mapError Failure.kind := by
  cases hagree with
  | value a => rfl
  | failure hkind => exact congrArg Except.error hkind

namespace Context

variable {root : Json} {clock fmt reference : String} {now : Moment}

theorem referenceMoment_of_not_mem (hfmt : ',' ∉ fmt.toList) :
    Dates.referenceMoment ⟨root, now⟩ (.age fmt) = .ok now := by
  simp only [Dates.referenceMoment, Call.age, Dates.reference?_of_not_mem hfmt]

/-- A timestamp in the document loses its offset. -/
theorem referenceMoment_of_timestamp (hclock : readReferenceTime clock = .ok now)
    (hcovered : now.instant.IsCovered) (hpath : Text.trimmed reference ≠ "")
    (hlookup : root.lookupPath? (Text.trimmed reference) = some (.str clock))
    (hfmt : ',' ∉ fmt.toList) (hreference : ',' ∉ reference.toList) :
    Dates.referenceMoment ⟨root, now⟩ (.age (fmt ++ "," ++ reference)) =
      .ok now.instant.toMoment := by
  have hdate := ofJson?_of_readReferenceTime hclock hcovered
  simp only [Dates.referenceMoment, Call.age, Dates.reference?_append hfmt hreference hpath,
    Dates.instantOf, hlookup, Option.map_some, hdate, ok_bind]
  rfl

theorem kind_query [Regex.Engine] (ctx : Context) (query : String) :
    (ctx.query query).kind = (ctx.attempt query).mapError Failure.kind := by
  rw [query_eq_evaluate]
  exact Outcome.kind_inQuery query _

/-- An age is the same by every clock of an instant, months around the turn of a year apart. So a
timestamp gives the same ages as the reference time and as a reference date in the document, if its
own year is the one that UTC shows. -/
theorem age_on_two_clocks [Regex.Engine] (now : Moment) :
    (now.InCalendar → ∀ later : Moment, later.InCalendar → now.instant = later.instant →
      now.year ≤ later.year → ∀ (t : Instant) (unit : DateUnit),
        age? t now unit = age? t later unit ↔
          ¬(unit = .months ∧ CrossesMonth t now later ∧ age? t now .years ≠ none)) ∧
    ∀ (root : Json) (clock path fmt reference : String),
      readReferenceTime clock = .ok now → now.instant.IsCovered →
      Text.trimmed reference ≠ "" →
      root.lookupPath? (Text.trimmed reference) = some (.str clock) →
      openedList? path.toList = none → Text.isAllBlank fmt.toList = false →
      Call.IsPart fmt → Call.IsPart reference →
      (Dates.unit? fmt = some .months → now.year = now.instant.date.year) →
      ((⟨root, now⟩ : Context).query (path ++ ".age(" ++ fmt ++ ")")).kind =
        ((⟨root, now⟩ : Context).query
          (path ++ ".age(" ++ fmt ++ "," ++ reference ++ ")")).kind := by
  refine ⟨fun hnow later hlater hsame hyear => age?_eq_iff hnow hlater hsame hyear,
    fun root clock path fmt reference hclock hcovered hpath hlookup hopened hblank hfmt
      hreference hyear => ?_⟩
  have hsame : now.instant = now.instant.toMoment.instant := by
    simp [Instant.toMoment, Moment.instant]
  have hages (unit : DateUnit) (hunit : Dates.unit? fmt = some unit) (t : Instant) :
      age? t now unit = age? t now.instant.toMoment unit :=
    age?_eq_of_year_eq hsame (fun hmonths => hyear (hmonths ▸ hunit)) t
  have hcalls := agree_age (Dates.unit?_append hfmt.plain reference).symm
    (referenceMoment_of_not_mem hfmt.plain)
    (referenceMoment_of_timestamp hclock hcovered hpath hlookup hfmt.plain hreference.plain) hages
  have hagree := agree_attempt_of_last_call hopened (Call.age_wellFormed hblank hfmt.balanced)
    (Call.age_append_wellFormed hfmt hreference) hcalls
  have hwritten (argument : String) :
      path ++ ".age(" ++ argument ++ ")" = path ++ "." ++ (Call.age argument).raw := by
    simp [Call.age, ← String.toList_inj]
  have hfirst := hwritten fmt
  have hsecond := hwritten (fmt ++ "," ++ reference)
  simp only [← String.append_assoc] at hsecond
  rw [kind_query, kind_query, hfirst, hsecond]
  exact hagree.mapError_kind

open scoped Regex.Standard

/-- By a clock that shows another month and the same year the months are those by UTC; half an hour
into a year they are not. -/
theorem age_on_two_clocks_in_june_and_january :
    let root : Json := .obj [("p", .str "2000-01-01"), ("r", .str "2021-06-01T00:30:00+01:00")]
    let june : Moment := ⟨wallOf ⟨2021, 6, 1⟩ 0 30 0 0, 3600⟩
    let january : Moment := ⟨wallOf ⟨2021, 1, 1⟩ 0 30 0 0, 3600⟩
    let t : Instant := ⟨wallOf ⟨2000, 1, 1⟩ 0 0 0 0⟩
    readReferenceTime "2021-06-01T00:30:00+01:00" = .ok june ∧
      ((⟨root, june⟩ : Context).query ("p" ++ ".age(" ++ "MM" ++ ")")).kind =
        ((⟨root, june⟩ : Context).query ("p" ++ ".age(" ++ "MM" ++ "," ++ " r" ++ ")")).kind ∧
      CrossesMonth t january.instant.toMoment january ∧
      age? t january.instant.toMoment .months ≠ age? t january .months ∧
      age? t january.instant.toMoment .years = age? t january .years := by
  intro root june january t
  have hclock : readReferenceTime "2021-06-01T00:30:00+01:00" = .ok june := rfl
  have hfmt : Call.IsPart "MM" := ⟨by decide, by decide⟩
  have hreference : Call.IsPart " r" := ⟨by decide, by decide⟩
  have hquery := (age_on_two_clocks june).2 root _ "p" "MM" " r" hclock (by decide) (by decide) rfl
    rfl rfl hfmt hreference (fun _ => by decide)
  have hages := (age_on_two_clocks january.instant.toMoment).1 (by decide) january (by decide)
    (by decide) (by decide) t
  have hcrosses : CrossesMonth t january.instant.toMoment january := by decide
  have hthere : age? t january.instant.toMoment .years ≠ none := by decide
  refine ⟨hclock, hquery, hcrosses, fun heq => (hages .months).mp heq ⟨rfl, hcrosses, hthere⟩, ?_⟩
  exact (hages .years).mpr nofun

/-- Half an hour into a year on a clock ahead of UTC, where it is still the year before. -/
theorem age_on_two_clocks_apart :
    let root : Json := .obj [("p", .str "2000-01-01"), ("r", .str "2021-01-01T00:30:00+01:00")]
    let now : Moment := ⟨wallOf ⟨2021, 1, 1⟩ 0 30 0 0, 3600⟩
    let utc : Moment := now.instant.toMoment
    let t : Instant := ⟨wallOf ⟨2000, 1, 1⟩ 0 0 0 0⟩
    now.instant = utc.instant ∧ age? t now .months = some 263 ∧ age? t utc .months = some 252 ∧
      readReferenceTime "2021-01-01T00:30:00+01:00" = .ok now ∧
      (⟨root, now⟩ : Context).query "p.age(MM)" = .ok (.ofInt 263) ∧
      (⟨root, now⟩ : Context).query "p.age(MM, r)" = .ok (.ofInt 252) := by
  exact ⟨by decide, by decide, by decide, rfl, rfl, rfl⟩

end Context

end DotQuery

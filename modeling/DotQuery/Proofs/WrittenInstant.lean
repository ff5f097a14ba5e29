import DotQuery.Calendar.Age
import DotQuery.Proofs.CivilDate
import DotQuery.Proofs.Cut
import DotQuery.Proofs.Digits
import DotQuery.Proofs.SafeInteger
import DotQuery.Text.Natural
import Mathlib.Tactic.Ring

/-!
# The spellings of an instant

An instant of whole milliseconds can be given as a number, or written on a clock: with the offset of
that clock, or without one by UTC. Each part that is written is read back whatever follows it, and
only one layout takes the whole text, so every spelling is read as the instant.
-/

namespace DotQuery

namespace Calendar

/-- Digits behind a point count in tenths, hundredths and so on, and what is finer than the scale is
dropped. -/
theorem fractionValue_eq {digits : List Char} (hdigits : ∀ c ∈ digits, c.isDigit = true)
    (exponent : Nat) : fractionValue (10 ^ exponent) digits =
      Text.digitsValue digits * 10 ^ exponent / 10 ^ digits.length := by
  have hzero : ∀ digits, fractionValue 0 digits = 0 := by
    intro digits
    induction digits with
    | nil => rfl
    | cons c rest ih => rw [fractionValue, Nat.zero_div, ih, Nat.mul_zero]
  induction digits generalizing exponent with
  | nil => simp [fractionValue, Text.digitsValue]
  | cons c rest ih =>
      cases exponent with
      | zero =>
          have hone : 10 ^ 0 / 10 = 0 := rfl
          rw [fractionValue, hone, hzero, pow_zero, Nat.mul_one,
            Nat.div_eq_of_lt (Text.digitsValue_lt hdigits)]
          rfl
      | succ exponent =>
          rw [List.forall_mem_cons] at hdigits
          have hscale : 10 ^ (exponent + 1) / 10 = 10 ^ exponent := by
            rw [pow_succ, Nat.mul_div_cancel _ (by decide)]
          have hpos : 0 < 10 ^ rest.length := Nat.pow_pos (by decide)
          have hsum : Text.digitsValue (c :: rest) * 10 ^ (exponent + 1) =
              ((c.toNat - '0'.toNat) * 10 ^ exponent * 10 ^ rest.length +
                Text.digitsValue rest * 10 ^ exponent) * 10 := by
            rw [Text.digitsValue_cons, pow_succ]
            ring
          rw [fractionValue, hscale, ih hdigits.2, hsum, List.length_cons, pow_succ,
            Nat.mul_div_mul_right _ _ (by decide), Nat.mul_comm _ (10 ^ rest.length),
            Nat.mul_add_div hpos]

/-! ### Writing -/

/-- How far a clock is from UTC, as it is written behind a time. -/
structure Zone where
  behind : Bool
  hours : Nat
  minutes : Nat
  hours_le : hours ≤ 23
  minutes_le : minutes ≤ 59

namespace Zone

def seconds (zone : Zone) : Int :=
  if zone.behind then -(zone.hours * 3600 + zone.minutes * 60 : Nat)
  else (zone.hours * 3600 + zone.minutes * 60 : Nat)

def text (zone : Zone) : List Char :=
  (if zone.behind then '-' else '+') :: inTwoDigits zone.hours ++ ':' :: inTwoDigits zone.minutes

end Zone

namespace Instant

/-- Four digits can write the year. -/
def HasPlainYear (t : Instant) : Prop :=
  0 ≤ t.date.year ∧ t.date.year ≤ 9999

instance (t : Instant) : Decidable t.HasPlainYear :=
  inferInstanceAs (Decidable (_ ∧ _))

def dateText (t : Instant) : List Char :=
  inTwoDigits (t.date.year.toNat / 100) ++ inTwoDigits (t.date.year.toNat % 100) ++
    '-' :: inTwoDigits t.date.month ++ '-' :: inTwoDigits t.date.day

def clockText (t : Instant) : List Char :=
  inTwoDigits t.hour ++ ':' :: inTwoDigits t.minute ++ ':' :: inTwoDigits t.second

/-- The milliseconds behind the whole second. -/
def milli (t : Instant) : Nat :=
  t.nanosecond / 1000000

/-- The fraction of the second in one or more digits, or none if the second is whole. -/
inductive FractionText (t : Instant) : List Char → Prop where
  | digits {digits : List Char} (hne : digits ≠ []) (hdigits : ∀ c ∈ digits, c.isDigit = true)
      (hvalue : Text.digitsValue digits * 1000 = t.milli * 10 ^ digits.length) :
      FractionText t ('.' :: digits)
  | whole (hwhole : t.milli = 0) : FractionText t []

/-- The milliseconds in three digits. -/
def millisText (t : Instant) : List Char :=
  (t.milli / 100).digitChar :: inTwoDigits (t.milli % 100)

/-- The date, the time with its fraction and what stands behind them. -/
def written (t : Instant) (separator : Char) (fraction mark : List Char) : List Char :=
  t.dateText ++ separator :: (t.clockText ++ (fraction ++ mark))

end Instant

/-- The ways to give an instant of whole milliseconds as a date. -/
inductive Spells (millis : Int) : Json → Prop where
  | number {n : Number} (hn : n.Denotes millis) : Spells millis (.num n)
  | utc {t : Instant} {fraction : List Char} (ht : t = .ofMillis millis)
      (hfraction : t.FractionText fraction) :
      Spells millis (.str (String.ofList (t.written 'T' fraction ['Z'])))
  | zoned {wall : Instant} {fraction : List Char} (zone : Zone)
      (hwall : wall = .ofMillis (millis + zone.seconds * 1000)) (hyear : wall.HasPlainYear)
      (hfraction : wall.FractionText fraction) :
      Spells millis (.str (String.ofList (wall.written 'T' fraction zone.text)))
  | plain {t : Instant} {fraction : List Char} (ht : t = .ofMillis millis)
      (hfraction : t.FractionText fraction) :
      Spells millis (.str (String.ofList (t.written 'T' fraction [])))
  | spaced {t : Instant} (ht : t = .ofMillis millis) (hwhole : t.milli = 0) :
      Spells millis (.str (String.ofList (t.written ' ' [] [])))
  | midnight {t : Instant} (ht : t = .ofMillis millis) (hmidnight : t.timeOfDay = 0) :
      Spells millis (.str (String.ofList t.dateText))

/-! ### Reading digits -/

section Readers

variable {α β : Type} {n : Nat} {c : Char} {text rest : List Char}

@[simp]
theorem bind_apply (reader : Reader α) (next : α → Reader β) (text : List Char) :
    (reader >>= next) text = (reader text).bind fun part => next part.1 part.2 := rfl

@[simp]
theorem pure_apply (a : α) (text : List Char) : (pure a : Reader α) text = some (a, text) := rfl

theorem character_cons {accepts : Char → Bool} (hc : accepts c = true) (rest : List Char) :
    character accepts (c :: rest) = some (c, rest) := by
  rw [character, if_pos hc]

@[simp]
theorem literal_cons (c : Char) (rest : List Char) : literal c (c :: rest) = some ((), rest) := by
  simp [literal, character]

theorem digit_digitChar (hn : n ≤ 9) (rest : List Char) :
    digit (n.digitChar :: rest) = some (n, rest) := by
  have hvalue := Text.toNat_digitChar hn
  simp only [digit, bind_apply, character_cons (Text.isDigit_digitChar hn), Option.bind_some,
    pure_apply, hvalue]

theorem twoDigits_inTwoDigits (hn : n ≤ 99) (rest : List Char) :
    twoDigits (inTwoDigits n ++ rest) = some (n, rest) := by
  have htens := digit_digitChar (show n / 10 ≤ 9 by omega)
  have hones := digit_digitChar (show n % 10 ≤ 9 by omega)
  simp only [twoDigits, inTwoDigits, List.cons_append, List.nil_append, bind_apply, htens, hones,
    Option.bind_some, pure_apply, Option.some.injEq, Prod.mk.injEq, and_true]
  omega

theorem inTwoDigits_not_blank (hn : n ≤ 99) :
    ∀ c ∈ inTwoDigits n, Text.isBlank c = false := by
  simp only [inTwoDigits, List.forall_mem_cons, List.not_mem_nil, false_imp_iff, implies_true,
    and_true]
  exact ⟨not_blank_digitChar (by omega), not_blank_digitChar (by omega)⟩

theorem signedDate_of_isDigit (hc : c.isDigit = true) (rest : List Char) :
    signedDate (c :: rest) = unsignedDate (c :: rest) := by
  unfold signedDate
  split
  · next heq =>
      cases heq
      cases hc
  · next heq =>
      cases heq
      cases hc
  · rfl

end Readers

/-! ### Reading what is written -/

namespace Instant

variable {t : Instant} {fraction mark rest : List Char} {separator : Char}

theorem date_isValid (t : Instant) : t.date.IsValid :=
  Date.isValid_ofDayNumber _

theorem timeOfDay_lt (t : Instant) : t.timeOfDay < 86400000000000 := by
  unfold timeOfDay nanosPerDay nanosPerSecond
  omega

theorem clock_bounds (t : Instant) : t.hour ≤ 23 ∧ t.minute ≤ 59 ∧ t.second ≤ 59 := by
  have hlt := t.timeOfDay_lt
  unfold hour minute second
  omega

theorem milli_le (t : Instant) : t.milli ≤ 999 := by
  unfold milli nanosecond
  omega

/-- A date and the time of its day make up the instant. -/
theorem wallOf_eq (t : Instant) :
    wallOf t.date t.hour t.minute t.second t.nanosecond = t.nanos := by
  have hday := Date.dayNumber_ofDayNumber (t.nanos / nanosPerDay)
  unfold wallOf date
  rw [hday]
  unfold hour minute second nanosecond timeOfDay nanosPerDay nanosPerSecond
  omega

theorem nanosecond_ofMillis (millis : Int) :
    (ofMillis millis).nanosecond = (ofMillis millis).milli * 1000000 := by
  have hmod : (millis * 1000000 % 86400000000000).toNat % 1000000 = 0 := by omega
  change (millis * 1000000 % 86400000000000).toNat % 1000000000 =
    (millis * 1000000 % 86400000000000).toNat % 1000000000 / 1000000 * 1000000
  omega

theorem month_day_le (t : Instant) : t.date.month ≤ 12 ∧ t.date.day ≤ 31 := by
  obtain ⟨hmonth, hlast, -, hlength⟩ := t.date_isValid
  exact ⟨hlast, hlength.trans (monthLength_bounds t.date.year hmonth hlast).2⟩

theorem unsignedDate_dateText (hyear : t.HasPlainYear) (rest : List Char) :
    unsignedDate (t.dateText ++ rest) = some (t.date, rest) := by
  obtain ⟨hfrom, hto⟩ := hyear
  obtain ⟨hmonth, hday⟩ := t.month_day_le
  have hhigh := twoDigits_inTwoDigits (show t.date.year.toNat / 100 ≤ 99 by omega)
  have hlow := twoDigits_inTwoDigits (show t.date.year.toNat % 100 ≤ 99 by omega)
  have hmonths := twoDigits_inTwoDigits (show t.date.month ≤ 99 by omega)
  have hdays := twoDigits_inTwoDigits (show t.date.day ≤ 99 by omega)
  have hyear : ((100 * (t.date.year.toNat / 100) + t.date.year.toNat % 100 : Nat) : Int) =
      t.date.year := by omega
  simp only [unsignedDate, fourDigits, dateAfterYear, dateText, List.append_assoc,
    List.cons_append, bind_apply, hhigh, hlow, hmonths, hdays, literal_cons, Option.bind_some,
    pure_apply, hyear]
  rw [if_pos t.date_isValid]
  rfl

theorem signedDate_dateText (hyear : t.HasPlainYear) (rest : List Char) :
    signedDate (t.dateText ++ rest) = some (t.date, rest) := by
  have hyears := hyear.2
  have hdigit := Text.isDigit_digitChar (show t.date.year.toNat / 100 / 10 ≤ 9 by omega)
  rw [← unsignedDate_dateText hyear rest]
  exact signedDate_of_isDigit hdigit _

theorem clock_clockText {lastSecond : Nat} (hlast : 59 ≤ lastSecond) (rest : List Char) :
    clock lastSecond (t.clockText ++ rest) = some ((t.hour, t.minute, t.second), rest) := by
  obtain ⟨hhour, hminute, hsecond⟩ := t.clock_bounds
  have hhours := twoDigits_inTwoDigits (show t.hour ≤ 99 by omega)
  have hminutes := twoDigits_inTwoDigits (show t.minute ≤ 99 by omega)
  have hseconds := twoDigits_inTwoDigits (show t.second ≤ 99 by omega)
  simp only [clock, clockText, List.append_assoc, List.cons_append, bind_apply, hhours, hminutes,
    hseconds, literal_cons, Option.bind_some]
  rw [if_pos ⟨hhour, hminute, hsecond.trans hlast⟩]
  rfl

/-- Only what is no digit ends a fraction, and only what is no point a whole second. -/
def EndsFraction (rest : List Char) : Prop :=
  ∀ c ∈ rest.head?, c.isDigit = false ∧ c ≠ '.'

theorem endsFraction_nil : EndsFraction [] := nofun

theorem fraction_append {digits : List Char} (hne : digits ≠ [])
    (hdigits : ∀ c ∈ digits, c.isDigit = true) (hrest : EndsFraction rest) :
    Calendar.fraction (digits ++ rest) = some (fractionValue 1000000000 digits, rest) := by
  have hends : ∀ c ∈ rest.head?, c.isDigit = false := fun c hc => (hrest c hc).1
  unfold Calendar.fraction
  dsimp only
  rw [Text.takeWhile_run_append hdigits hends, Text.dropWhile_run_append hdigits hends]
  cases digits with
  | nil => exact absurd rfl hne
  | cons c others => rfl

theorem fractionValue_of_milli {digits : List Char} (hdigits : ∀ c ∈ digits, c.isDigit = true)
    (hvalue : Text.digitsValue digits * 1000 = t.milli * 10 ^ digits.length) :
    fractionValue 1000000000 digits = t.milli * 1000000 := by
  have hscale : Text.digitsValue digits * 10 ^ 9 =
      t.milli * 1000000 * 10 ^ digits.length := by
    calc Text.digitsValue digits * 10 ^ 9 = Text.digitsValue digits * 1000 * 1000000 := by ring
      _ = t.milli * 1000000 * 10 ^ digits.length := by
          rw [hvalue]
          ring
  have hread := fractionValue_eq hdigits 9
  rw [hscale, Nat.mul_div_cancel _ (Nat.pow_pos (by decide))] at hread
  exact hread

theorem optionalFraction_text (hfraction : t.FractionText fraction) (hrest : EndsFraction rest) :
    optionalFraction (fraction ++ rest) = some (t.milli * 1000000, rest) := by
  cases hfraction with
  | digits hne hdigits hvalue =>
      rw [← fractionValue_of_milli hdigits hvalue]
      exact fraction_append hne hdigits hrest
  | whole hwhole =>
      rw [List.nil_append, hwhole, Nat.zero_mul]
      unfold optionalFraction
      split
      · exact absurd rfl (hrest '.' rfl).2
      · rfl

/-- Three digits are one way to write the fraction. -/
theorem fractionText_millisText (t : Instant) : t.FractionText ('.' :: t.millisText) := by
  have hmilli := t.milli_le
  have hdigits : ∀ c ∈ t.millisText, c.isDigit = true := by
    simp only [millisText, inTwoDigits, List.forall_mem_cons, List.not_mem_nil, false_imp_iff,
      implies_true, and_true]
    exact ⟨Text.isDigit_digitChar (by omega), Text.isDigit_digitChar (by omega),
      Text.isDigit_digitChar (by omega)⟩
  refine .digits (List.cons_ne_nil _ _) hdigits ?_
  simp only [millisText, inTwoDigits, Text.digitsValue, List.foldl_cons, List.foldl_nil,
    List.length_cons, List.length_nil, Text.toNat_digitChar (show t.milli / 100 ≤ 9 by omega),
    Text.toNat_digitChar (show t.milli % 100 / 10 ≤ 9 by omega),
    Text.toNat_digitChar (show t.milli % 100 % 10 ≤ 9 by omega)]
  omega

/-! ### Layouts -/

theorem endsFraction_of_offset {seconds : Int} (hmark : offset mark = some (seconds, [])) :
    EndsFraction mark := by
  unfold offset at hmark
  simp only [bind_eq_some_iff, character_eq_some_iff, Bool.or_eq_true, beq_iff_eq] at hmark
  obtain ⟨first, after, ⟨rfl, hfirst⟩, -⟩ := hmark
  intro c hc
  obtain rfl := Option.some.inj hc
  rcases hfirst with ((rfl | rfl) | rfl) | rfl <;> decide

theorem timestamp_written {seconds : Int} (hyear : t.HasPlainYear)
    (hnanos : t.nanosecond = t.milli * 1000000) (hfraction : t.FractionText fraction)
    (hmark : offset mark = some (seconds, [])) :
    timestamp (t.written 'T' fraction mark) = some (⟨t.nanos, seconds⟩, []) := by
  have hdate := unsignedDate_dateText hyear
  have hseparator (rest : List Char) :
      character (fun c => decide (c.toNat < 128)) ('T' :: rest) = some ('T', rest) := rfl
  have hclock := t.clock_clockText (show 59 ≤ 60 by decide)
  have hpoint := optionalFraction_text hfraction (endsFraction_of_offset hmark)
  have hsecond : t.second ≠ 60 := by
    have hbounds := t.clock_bounds
    omega
  simp only [timestamp, written, bind_apply, hdate, Option.bind_some, hseparator, hclock, hpoint,
    hmark, ending, if_neg hsecond, pure_apply, ← hnanos, wallOf_eq]

theorem timestamp_dateText (hyear : t.HasPlainYear) : timestamp t.dateText = none := by
  have hdate := unsignedDate_dateText hyear []
  rw [List.append_nil] at hdate
  simp only [timestamp, bind_apply, hdate, Option.bind_some]
  rfl

/-- Without an offset no timestamp is read. -/
theorem timestamp_written_nil (hyear : t.HasPlainYear) (hfraction : t.FractionText fraction)
    (hascii : separator.toNat < 128) : timestamp (t.written separator fraction []) = none := by
  have hdate := unsignedDate_dateText hyear
  have hseparator (rest : List Char) : character (fun c => decide (c.toNat < 128))
      (separator :: rest) = some (separator, rest) := character_cons (by simp [hascii]) rest
  have hclock := t.clock_clockText (show 59 ≤ 60 by decide)
  have hpoint := optionalFraction_text hfraction endsFraction_nil
  have hnone : offset [] = none := rfl
  simp only [timestamp, written, bind_apply, hdate, Option.bind_some, hseparator, hclock, hpoint,
    hnone, Option.bind_none]

theorem plainDate_dateText (hyear : t.HasPlainYear) :
    plainDate t.dateText = some (⟨wallOf t.date 0 0 0 0, 0⟩, []) := by
  have hdate := signedDate_dateText hyear []
  rw [List.append_nil] at hdate
  simp only [plainDate, bind_apply, hdate, Option.bind_some, ending, pure_apply]

theorem plainDate_written (hyear : t.HasPlainYear) (separator : Char) (fraction mark : List Char) :
    plainDate (t.written separator fraction mark) = none := by
  have hdate := signedDate_dateText hyear
  simp only [plainDate, written, bind_apply, hdate, Option.bind_some, ending, Option.bind_none]

theorem plainDateTime_written_whole (hyear : t.HasPlainYear) (hwhole : t.nanosecond = 0)
    (separator : Char) :
    plainDateTime separator false (t.written separator [] []) = some (⟨t.nanos, 0⟩, []) := by
  have hdate := signedDate_dateText hyear
  have hclock := t.clock_clockText (Nat.le_refl 59)
  have hwall := t.wallOf_eq
  rw [hwhole] at hwall
  simp only [plainDateTime, written, bind_apply, hdate, Option.bind_some, literal_cons, hclock,
    Bool.false_eq_true, ↓reduceIte, pure_apply, List.nil_append, ending, hwall]

/-- The layout without a fraction stops at the point. -/
theorem plainDateTime_written_point (hyear : t.HasPlainYear) (separator : Char)
    (fraction : List Char) :
    plainDateTime separator false (t.written separator ('.' :: fraction) []) = none := by
  have hdate := signedDate_dateText hyear
  have hclock := t.clock_clockText (Nat.le_refl 59)
  simp only [plainDateTime, written, bind_apply, hdate, Option.bind_some, literal_cons, hclock,
    Bool.false_eq_true, ↓reduceIte, pure_apply, List.append_nil, ending, Option.bind_none]

theorem plainDateTime_written_digits {digits : List Char} (hyear : t.HasPlainYear)
    (hnanos : t.nanosecond = t.milli * 1000000) (hne : digits ≠ [])
    (hdigits : ∀ c ∈ digits, c.isDigit = true)
    (hvalue : Text.digitsValue digits * 1000 = t.milli * 10 ^ digits.length) (separator : Char) :
    plainDateTime separator true (t.written separator ('.' :: digits) []) =
      some (⟨t.nanos, 0⟩, []) := by
  have hdate := signedDate_dateText hyear
  have hclock := t.clock_clockText (Nat.le_refl 59)
  have hfraction := fraction_append hne hdigits endsFraction_nil
  rw [List.append_nil, fractionValue_of_milli hdigits hvalue, ← hnanos] at hfraction
  simp only [plainDateTime, written, bind_apply, hdate, Option.bind_some, literal_cons, hclock,
    ↓reduceIte, List.append_nil, hfraction, ending, pure_apply, wallOf_eq]

theorem plainDateTime_written_ne {other : Char} (hyear : t.HasPlainYear)
    (hne : separator ≠ other) (fractional : Bool) (fraction mark : List Char) :
    plainDateTime other fractional (t.written separator fraction mark) = none := by
  have hdate := signedDate_dateText hyear
  have hliteral (rest : List Char) : literal other (separator :: rest) = none := by
    simp [literal, character, hne]
  simp only [plainDateTime, written, bind_apply, hdate, Option.bind_some, hliteral,
    Option.bind_none]

/-! ### Whole texts -/

theorem dateText_not_blank (hyear : t.HasPlainYear) :
    ∀ c ∈ t.dateText, Text.isBlank c = false := by
  obtain ⟨hmonth, hday⟩ := t.month_day_le
  have hyears := hyear.2
  have hdash : Text.isBlank '-' = false := by decide
  simp only [dateText, List.forall_mem_append, List.forall_mem_cons, hdash, true_and]
  exact ⟨⟨⟨inTwoDigits_not_blank (by omega), inTwoDigits_not_blank (by omega)⟩,
    inTwoDigits_not_blank (by omega)⟩, inTwoDigits_not_blank (by omega)⟩

theorem clockText_not_blank (t : Instant) : ∀ c ∈ t.clockText, Text.isBlank c = false := by
  obtain ⟨hhour, hminute, hsecond⟩ := t.clock_bounds
  have hcolon : Text.isBlank ':' = false := by decide
  simp only [clockText, List.forall_mem_append, List.forall_mem_cons, hcolon, true_and]
  exact ⟨⟨inTwoDigits_not_blank (by omega), inTwoDigits_not_blank (by omega)⟩,
    inTwoDigits_not_blank (by omega)⟩

theorem FractionText.not_blank (hfraction : t.FractionText fraction) :
    ∀ c ∈ fraction, Text.isBlank c = false := by
  have hpoint : Text.isBlank '.' = false := by decide
  cases hfraction with
  | digits hne hdigits hvalue =>
      rw [List.forall_mem_cons]
      exact ⟨hpoint, fun c hmem => Text.not_blank_of_isDigit (hdigits c hmem)⟩
  | whole hwhole => exact List.forall_mem_nil _

theorem trim_dateText (hyear : t.HasPlainYear) : Text.trim t.dateText = t.dateText :=
  Text.trim_eq_self (fun c hc => dateText_not_blank hyear c (List.mem_of_mem_head? hc))
    (fun c hc => dateText_not_blank hyear c (List.mem_of_mem_getLast? hc))

/-- The separator may be blank, but it stands at neither end. -/
theorem trim_written (hyear : t.HasPlainYear) (hfraction : t.FractionText fraction)
    (hmark : ∀ c ∈ mark, Text.isBlank c = false) (separator : Char) :
    Text.trim (t.written separator fraction mark) = t.written separator fraction mark := by
  have hbehind : ∀ c ∈ t.clockText ++ (fraction ++ mark), Text.isBlank c = false := by
    simp only [List.forall_mem_append]
    exact ⟨t.clockText_not_blank, hfraction.not_blank, hmark⟩
  have hclock : t.clockText ++ (fraction ++ mark) ≠ [] := by
    simp [clockText, inTwoDigits]
  have hdate : t.dateText ≠ [] := by
    simp [dateText, inTwoDigits]
  apply Text.trim_eq_self
  · intro c hc
    rw [written, List.head?_append_of_ne_nil _ hdate] at hc
    exact dateText_not_blank hyear c (List.mem_of_mem_head? hc)
  · intro c hc
    rw [written, List.getLast?_append_of_ne_nil _ (List.cons_ne_nil _ _),
      List.getLast?_cons_of_ne_nil hclock] at hc
    exact hbehind c (List.mem_of_mem_getLast? hc)

theorem ofJson?_ofList {text : List Char} {moment : Moment} (htrim : Text.trim text = text)
    (hread : Moment.ofText? text = some moment) (hinstant : moment.instant = t)
    (hcovered : t.IsCovered) : Instant.ofJson? (.str (String.ofList text)) = .ok (some t) := by
  subst hinstant
  simp only [Instant.ofJson?, String.toList_ofList, htrim, hread, Moment.instant?, if_pos hcovered]
  rfl

end Instant

namespace Zone

theorem offset_text (zone : Zone) : offset zone.text = some (zone.seconds, []) := by
  obtain ⟨behind, hours, minutes, hhours, hminutes⟩ := zone
  have hhour := twoDigits_inTwoDigits (show hours ≤ 99 by omega)
  have hminute := twoDigits_inTwoDigits (show minutes ≤ 99 by omega) []
  rw [List.append_nil] at hminute
  cases behind <;>
    simp [offset, text, seconds, character, hhour, hminute, hhours, hminutes]

theorem text_not_blank (zone : Zone) : ∀ c ∈ zone.text, Text.isBlank c = false := by
  have hhours := zone.hours_le
  have hminutes := zone.minutes_le
  have hsign : Text.isBlank (if zone.behind then '-' else '+') = false := by
    split <;> decide
  have hcolon : Text.isBlank ':' = false := by decide
  simp only [text, List.cons_append, List.forall_mem_append, List.forall_mem_cons, hsign, hcolon,
    true_and]
  exact ⟨inTwoDigits_not_blank (by omega), inTwoDigits_not_blank (by omega)⟩

end Zone

/-! ### Instants -/

section Instants

variable {millis : Int} {value : Json}

theorem Instant.HasPlainYear.isCovered {t : Instant} (hyear : t.HasPlainYear) : t.IsCovered := by
  rw [Instant.isCovered_iff]
  have hfrom := hyear.1
  exact ⟨by omega, hyear.2⟩

/-- A plain year is much nearer to 1970 than the integers that are not safe. -/
theorem natAbs_lt_of_hasPlainYear (hyear : (Instant.ofMillis millis).HasPlainYear) :
    millis.natAbs < Nat.pow 2 53 := by
  obtain ⟨hfrom, hto⟩ := hyear.isCovered
  have hearliest : earliest = -377705116800000000000 := by decide
  have hlatest : latest = 253402300800000000000 := by decide
  rw [hearliest] at hfrom
  rw [hlatest] at hto
  simp only [Instant.ofMillis, nanosPerMilli] at hfrom hto
  rw [Nat.pow_eq]
  omega

theorem ofText?_of_timestamp {text : List Char} {moment : Moment}
    (hread : timestamp text = some (moment, [])) : Moment.ofText? text = some moment := by
  simp only [Moment.ofText?, List.findSome?_cons, Reader.whole?, hread, Option.map_some]

theorem ofText?_plain {t : Instant} {fraction : List Char} (hyear : t.HasPlainYear)
    (hnanos : t.nanosecond = t.milli * 1000000) (hfraction : t.FractionText fraction) :
    Moment.ofText? (t.written 'T' fraction []) = some ⟨t.nanos, 0⟩ := by
  have htimestamp := Instant.timestamp_written_nil hyear hfraction (show 'T'.toNat < 128 by decide)
  have hdate := Instant.plainDate_written hyear 'T' fraction []
  simp only [Moment.ofText?, List.findSome?_cons, Reader.whole?, htimestamp, hdate,
    Option.map_none]
  cases hfraction with
  | @digits digits hne hdigits hvalue =>
      have hpoint := Instant.plainDateTime_written_point hyear 'T' digits
      have hread := Instant.plainDateTime_written_digits hyear hnanos hne hdigits hvalue 'T'
      simp only [hpoint, hread, Option.map_none, Option.map_some]
  | whole hwhole =>
      have hnone : t.nanosecond = 0 := by rw [hnanos, hwhole]
      have hread := Instant.plainDateTime_written_whole hyear hnone 'T'
      simp only [hread, Option.map_some]

theorem ofText?_spaced {t : Instant} (hyear : t.HasPlainYear) (hwhole : t.nanosecond = 0)
    (hfraction : t.FractionText []) :
    Moment.ofText? (t.written ' ' [] []) = some ⟨t.nanos, 0⟩ := by
  have htimestamp := Instant.timestamp_written_nil hyear hfraction (show ' '.toNat < 128 by decide)
  have hdate := Instant.plainDate_written hyear ' ' [] []
  have hletter (fractional : Bool) := Instant.plainDateTime_written_ne hyear
    (show ' ' ≠ 'T' by decide) fractional [] []
  have hread := Instant.plainDateTime_written_whole hyear hwhole ' '
  simp only [Moment.ofText?, List.findSome?_cons, Reader.whole?, htimestamp, hdate, hletter, hread,
    Option.map_none, Option.map_some]

theorem ofText?_midnight {t : Instant} (hyear : t.HasPlainYear) (hmidnight : t.timeOfDay = 0) :
    Moment.ofText? t.dateText = some ⟨t.nanos, 0⟩ := by
  have hwall := t.wallOf_eq
  simp only [Instant.hour, Instant.minute, Instant.second, Instant.nanosecond, hmidnight,
    Nat.zero_div, Nat.zero_mod] at hwall
  simp only [Moment.ofText?, List.findSome?_cons, Reader.whole?, Instant.timestamp_dateText hyear,
    Instant.plainDate_dateText hyear, hwall, Option.map_none, Option.map_some]

theorem instant_of_utc (t : Instant) : Moment.instant ⟨t.nanos, 0⟩ = t := by
  simp [Moment.instant]

theorem instant_of_zone (millis seconds : Int) :
    Moment.instant ⟨(Instant.ofMillis (millis + seconds * 1000)).nanos, seconds⟩ =
      .ofMillis millis := by
  simp only [Moment.instant, Instant.ofMillis, nanosPerMilli, nanosPerSecond, Instant.mk.injEq]
  omega

theorem ofJson?_of_spells (hyear : (Instant.ofMillis millis).HasPlainYear)
    (hspells : Spells millis value) : Instant.ofJson? value = .ok (some (.ofMillis millis)) := by
  have hcovered := hyear.isCovered
  have hnanos := Instant.nanosecond_ofMillis millis
  cases hspells with
  | number hn =>
      obtain ⟨x, hx, htruncate⟩ := hn.exists_truncate_eq (natAbs_lt_of_hasPlainYear hyear)
      simp only [Instant.ofJson?, hx, Binary64.finite?, Option.bind_some, htruncate,
        Instant.covered?, if_pos hcovered]
  | utc ht hfraction =>
      subst ht
      have hoffset : offset ['Z'] = some (0, []) := rfl
      have hmark : ∀ c ∈ ['Z'], Text.isBlank c = false :=
        List.forall_mem_singleton.mpr (by decide)
      have hread := ofText?_of_timestamp (Instant.timestamp_written hyear hnanos hfraction hoffset)
      exact Instant.ofJson?_ofList (Instant.trim_written hyear hfraction hmark 'T') hread
        (instant_of_utc _) hcovered
  | zoned zone hwall hlocal hfraction =>
      subst hwall
      have hread := ofText?_of_timestamp (Instant.timestamp_written hlocal
        (Instant.nanosecond_ofMillis _) hfraction zone.offset_text)
      have htrim := Instant.trim_written hlocal hfraction zone.text_not_blank 'T'
      exact Instant.ofJson?_ofList htrim hread (instant_of_zone _ _) hcovered
  | plain ht hfraction =>
      subst ht
      have hread := ofText?_plain hyear hnanos hfraction
      have htrim := Instant.trim_written hyear hfraction (List.forall_mem_nil _) 'T'
      exact Instant.ofJson?_ofList htrim hread (instant_of_utc _) hcovered
  | spaced ht hwhole =>
      subst ht
      have hfraction := Instant.FractionText.whole hwhole
      have hread := ofText?_spaced hyear (by rw [hnanos, hwhole]) hfraction
      have htrim := Instant.trim_written hyear hfraction (List.forall_mem_nil _) ' '
      exact Instant.ofJson?_ofList htrim hread (instant_of_utc _) hcovered
  | midnight ht hmidnight =>
      subst ht
      exact Instant.ofJson?_ofList (Instant.trim_dateText hyear) (ofText?_midnight hyear hmidnight)
        (instant_of_utc _) hcovered

/-- Every spelling of an instant is read as the instant, and so its components are the numbers that
stand in the text of its UTC time. -/
theorem spellings_read_alike (hyear : (Instant.ofMillis millis).HasPlainYear)
    (hspells : Spells millis value) :
    ∃ t year month day hour, Instant.ofJson? value = .ok (some t) ∧ t = .ofMillis millis ∧
      (year ≤ 9999 ∧ month ≤ 12 ∧ day ≤ 31 ∧ hour ≤ 23) ∧
      t.dateText = inTwoDigits (year / 100) ++ inTwoDigits (year % 100) ++
        '-' :: inTwoDigits month ++ '-' :: inTwoDigits day ∧
      inTwoDigits hour ++ [':'] <+: t.clockText ∧
      component t .years = year ∧ component t .months = month ∧ component t .days = day ∧
      component t .hours = hour := by
  obtain ⟨hmonth, hday⟩ := (Instant.ofMillis millis).month_day_le
  obtain ⟨hhour, -, -⟩ := (Instant.ofMillis millis).clock_bounds
  have hread := ofJson?_of_spells hyear hspells
  obtain ⟨hfrom, hto⟩ := hyear
  refine ⟨_, (Instant.ofMillis millis).date.year.toNat, _, _, _, hread, rfl,
    ⟨by omega, hmonth, hday, hhour⟩, rfl, ?_, ?_, rfl, rfl, rfl⟩
  · exact ⟨inTwoDigits (Instant.ofMillis millis).minute ++
      ':' :: inTwoDigits (Instant.ofMillis millis).second, by simp [Instant.clockText]⟩
  · exact (Int.toNat_of_nonneg hfrom).symm

/-- A minute ahead of UTC the leap day of 2000 has begun. -/
theorem spellings_read_alike_leap_day :
    let text := "2000-02-29T00:00:59.999+00:01"
    (Instant.ofMillis 951782399999).HasPlainYear ∧ Spells 951782399999 (.str text) ∧
      Instant.ofJson? (.str text) = .ok (some (.ofMillis 951782399999)) ∧
      component (.ofMillis 951782399999) .months = 2 ∧
      component (.ofMillis 951782399999) .days = 28 := by
  intro text
  let zone : Zone := ⟨false, 0, 1, by decide, by decide⟩
  let wall : Instant := .ofMillis (951782399999 + zone.seconds * 1000)
  have hyear : (Instant.ofMillis 951782399999).HasPlainYear := by decide
  have hspells : Spells 951782399999 (.str text) := by
    have hwritten : wall.written 'T' ('.' :: wall.millisText) zone.text =
        "2000-02-29T00:00:59.999+00:01".toList := by decide
    have hlocal : wall.HasPlainYear := by decide
    have hzoned := Spells.zoned zone rfl hlocal wall.fractionText_millisText
    rwa [hwritten, String.ofList_toList] at hzoned
  obtain ⟨t, -, -, -, -, hread, rfl, -⟩ := spellings_read_alike hyear hspells
  exact ⟨hyear, hspells, hread, by decide, by decide⟩

end Instants

end Calendar

end DotQuery

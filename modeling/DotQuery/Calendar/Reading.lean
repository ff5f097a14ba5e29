import DotQuery.Calendar.Instant
import DotQuery.Json.Basic
import DotQuery.Text.Blank

/-!
Written dates. A timestamp carries the offset of its clock; a plain date, and a date with a time but
no offset, are taken in UTC. A number counts milliseconds from the start of 1970. A written date
whose offset carries it out of the years that the calendar covers denotes no instant at all.
-/

namespace DotQuery.Calendar

/-- Reads a part of a text from its start. -/
abbrev Reader := StateT (List Char) Option

def character (accepts : Char → Bool) : Reader Char
  | c :: rest => if accepts c then some (c, rest) else none
  | [] => none

def literal (c : Char) : Reader Unit := do
  let _ ← character (· == c)

def digit : Reader Nat := do
  let c ← character Char.isDigit
  return c.toNat - '0'.toNat

def twoDigits : Reader Nat := do
  let tens ← digit
  let ones ← digit
  return 10 * tens + ones

def fourDigits : Reader Nat := do
  let high ← twoDigits
  let low ← twoDigits
  return 100 * high + low

/-- The value of a fraction's digits in parts of `scale`, as far as they count. -/
def fractionValue (scale : Nat) : List Char → Nat
  | [] => 0
  | c :: rest => (c.toNat - '0'.toNat) * (scale / 10) + fractionValue (scale / 10) rest

/-- One or more digits after a point, as nanoseconds; what is finer is dropped. -/
def fraction : Reader Nat
  | text =>
    match text.takeWhile Char.isDigit with
    | [] => none
    | digits => some (fractionValue 1000000000 digits, text.dropWhile Char.isDigit)

/-- Succeeds where the text ends. -/
def ending : Reader Unit
  | [] => some ((), [])
  | _ => none

def dateAfterYear (year : Int) : Reader Date := do
  literal '-'
  let month ← twoDigits
  literal '-'
  let day ← twoDigits
  let date : Date := ⟨year, month, day⟩
  if date.IsValid then return date else failure

def unsignedDate : Reader Date := do
  let year ← fourDigits
  dateAfterYear year

/-- A date whose year may carry a sign. -/
def signedDate : Reader Date
  | '+' :: rest => unsignedDate rest
  | '-' :: rest => (do
      let year ← fourDigits
      dateAfterYear (-(year : Int)) : Reader Date) rest
  | text => unsignedDate text

/-- Hours, minutes and seconds up to a given last second. -/
def clock (lastSecond : Nat) : Reader (Nat × Nat × Nat) := do
  let hour ← twoDigits
  literal ':'
  let minute ← twoDigits
  literal ':'
  let second ← twoDigits
  if hour ≤ 23 ∧ minute ≤ 59 ∧ second ≤ lastSecond then return (hour, minute, second) else failure

def wallOf (date : Date) (hour minute second nanos : Nat) : Int :=
  date.dayNumber * nanosPerDay + (hour * 3600 + minute * 60 + second) * nanosPerSecond + nanos

/-- The offset of a timestamp in seconds: the letter Z, or a sign with hours and minutes. -/
def offset : Reader Int := do
  let mark ← character fun c => c == 'Z' || c == 'z' || c == '+' || c == '-'
  if mark == 'Z' || mark == 'z' then return 0
  else
    let hours ← twoDigits
    literal ':'
    let minutes ← twoDigits
    if hours ≤ 23 ∧ minutes ≤ 59 then
      let seconds : Int := hours * 3600 + minutes * 60
      return if mark == '-' then -seconds else seconds
    else failure

/-- The fraction of a second, if a point announces one. -/
def optionalFraction : Reader Nat
  | '.' :: rest => fraction rest
  | text => some (0, text)

/-- A leap second can only end the last day of a month in UTC. -/
def admitsLeapSecond (t : Instant) : Bool :=
  t.IsCovered && t.hour == 23 && t.minute == 59 && t.second == 59 &&
    t.date.day == monthLength t.date.year t.date.month

/-- A timestamp with an offset. Any ASCII character may stand between date and time, and a leap
second reads as the last nanosecond of the minute. -/
def timestamp : Reader Moment := do
  let date ← unsignedDate
  let _ ← character fun c => c.toNat < 128
  let (hour, minute, second) ← clock 60
  let nanos ← optionalFraction
  let offset ← offset
  ending
  if second = 60 then
    let moment : Moment := ⟨wallOf date hour minute 59 999999999, offset⟩
    if admitsLeapSecond moment.instant then return moment else failure
  else return ⟨wallOf date hour minute second nanos, offset⟩

def plainDate : Reader Moment := do
  let date ← signedDate
  ending
  return ⟨wallOf date 0 0 0 0, 0⟩

/-- A date and a time without an offset; a fraction may follow where `separator` is the letter T. -/
def plainDateTime (separator : Char) (fractional : Bool) : Reader Moment := do
  let date ← signedDate
  literal separator
  let (hour, minute, second) ← clock 59
  let nanos ← if fractional then (do literal '.'; fraction) else pure 0
  ending
  return ⟨wallOf date hour minute second nanos, 0⟩

def Reader.whole? {α : Type} (reader : Reader α) (text : List Char) : Option α :=
  (reader text).map (·.1)

/-- The moment that a timestamp with an offset denotes. -/
def Moment.ofTimestamp? (text : String) : Option Moment :=
  timestamp.whole? text.toList

/-- The moment that a written date denotes, in the first layout that fits. -/
def Moment.ofText? (text : List Char) : Option Moment :=
  [timestamp, plainDate, plainDateTime 'T' false, plainDateTime 'T' true,
    plainDateTime ' ' false].findSome? (·.whole? text)

/-- The instant of a written date lies outside the years that the calendar covers. -/
inductive Overflow where
  | overflow
deriving DecidableEq

/-- The instant of a moment. -/
def Moment.instant? (m : Moment) : Except Overflow Instant :=
  if m.instant.IsCovered then .ok m.instant else .error .overflow

/-- The instant that a value denotes, if it is a date. -/
def Instant.ofJson? : Json → Except Overflow (Option Instant)
  | .str text =>
    match Moment.ofText? (Text.trim text.toList) with
    | some moment => some <$> moment.instant?
    | none => .ok none
  | .num n =>
    .ok (n.toBinary64.finite?.bind fun x => (Instant.ofMillis x.truncate).covered?)
  | _ => .ok none

end DotQuery.Calendar

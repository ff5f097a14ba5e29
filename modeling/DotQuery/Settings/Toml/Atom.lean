import DotQuery.Calendar.Reading
import DotQuery.Decimal.Numeral
import DotQuery.Settings.Basic
import DotQuery.Text.Cut
import DotQuery.Text.Natural

/-!
The scalars of TOML that are written without quotes: booleans, integers, floats, and dates and
times, which give their text in one uniform way.
-/

namespace DotQuery.Toml

/-! ### Numbers -/

/-- One or more digits without the underscores that may stand between two of them. -/
def digits? (text : List Char) : Option (List Char) :=
  let groups := Text.fields '_' text
  if groups.all fun group => !group.isEmpty && group.all Char.isAlphanum then some groups.flatten
  else none

def decimalDigits? (text : List Char) : Option (List Char) :=
  (digits? text).filter fun digits => digits.all Char.isDigit

/-- Decimal digits that start with no superfluous zero. -/
def wholeDigits? (text : List Char) : Option (List Char) :=
  (decimalDigits? text).filter fun digits => digits.head? != some '0' || digits.length = 1

def magnitude? (text : List Char) : Option Nat :=
  match text with
  | '0' :: 'x' :: rest => (digits? rest).bind (Text.numeral? 16)
  | '0' :: 'o' :: rest => (digits? rest).bind (Text.numeral? 8)
  | '0' :: 'b' :: rest => (digits? rest).bind (Text.numeral? 2)
  | text => (wholeDigits? text).map Text.digitsValue

def integer? (text : List Char) : Option Setting := do
  let value : Int ← match text with
    | '-' :: rest => ((wholeDigits? rest).map Text.digitsValue).map fun n => -(n : Int)
    | '+' :: rest => ((wholeDigits? rest).map Text.digitsValue).map Int.ofNat
    | text => (magnitude? text).map Int.ofNat
  if Setting.isSigned64 value then return .ofInt value else none

/-- The texts before and behind a mark; nothing is behind it where it is missing. -/
def splitMark (isMark : Char → Bool) (text : List Char) : List Char × Option (List Char) :=
  match text.dropWhile fun c => !isMark c with
  | _ :: behind => (text.takeWhile fun c => !isMark c, some behind)
  | [] => (text, none)

/-- The sign and digits of an optional exponent. -/
def exponent? (text : Option (List Char)) : Option (Bool × List Char) :=
  match text with
  | some text =>
    let (negative, digits) := Numeral.takeSign text
    (decimalDigits? digits).map fun digits => (negative, digits)
  | none => some (false, [])

/-- The digits of an optional fraction. -/
def fraction? (text : Option (List Char)) : Option (List Char) :=
  match text with
  | some text => decimalDigits? text
  | none => some []

/-- A number with a point or an exponent. -/
def decimal? (text : List Char) : Option Setting := do
  let (negative, text) := Numeral.takeSign text
  let (significand, exponent) := splitMark (fun c => c == 'e' || c == 'E') text
  let (whole, fraction) := splitMark (· == '.') significand
  if exponent.isNone && fraction.isNone then none
  let (exponentNegative, exponent) ← exponent? exponent
  let numeral : Numeral :=
    ⟨negative, ← wholeDigits? whole, ← fraction? fraction, exponentNegative, exponent⟩
  return .ofFloat (.finite (← numeral.finite?))

/-- Infinity and NaN by their names. -/
def named? (text : List Char) : Option Setting :=
  let (negative, name) := Numeral.takeSign text
  match String.ofList name with
  | "inf" => some (.ofFloat (.infinite negative))
  | "nan" => some (.ofFloat .nan)
  | _ => none

/-! ### Dates and times -/

open Calendar

def padded (width n : Nat) : List Char :=
  let digits := Nat.toDigits 10 n
  List.replicate (width - digits.length) '0' ++ digits

def writeDate (date : Date) : List Char :=
  padded 4 date.year.toNat ++ '-' :: padded 2 date.month ++ '-' :: padded 2 date.day

/-- A fraction of a second without the zeros at its end. -/
def writeFraction (nanos : Nat) : List Char :=
  if nanos = 0 then []
  else '.' :: ((padded 9 nanos).reverse.dropWhile (· == '0')).reverse

def timeText : Reader (List Char) := do
  let (hour, minute, second) ← clock 60
  let nanos ← optionalFraction
  return padded 2 hour ++ ':' :: padded 2 minute ++ ':' :: padded 2 second ++ writeFraction nanos

def offsetText : Reader (List Char)
  | [] => some ([], [])
  | c :: rest => (do
      let seconds ← offset
      if c == 'Z' || c == 'z' then return ['Z']
      else
        let minutes := seconds.natAbs / 60
        return (if seconds < 0 then '-' else '+') ::
          (padded 2 (minutes / 60) ++ ':' :: padded 2 (minutes % 60)) : Reader (List Char))
      (c :: rest)

def dateText : Reader (List Char) := do
  return writeDate (← unsignedDate)

def dateTimeText : Reader (List Char) := do
  let date ← dateText
  let _ ← character fun c => c == 'T' || c == 't' || c == ' '
  let time ← timeText
  let offset ← offsetText
  return date ++ 'T' :: (time ++ offset)

def date? (text : List Char) : Option Setting :=
  let readers := [dateText, timeText, dateTimeText].map fun reader =>
    (do let written ← reader; ending; return written : Reader (List Char))
  (readers.findSome? (·.whole? text)).map fun written => .scalar true (String.ofList written)

/-! ### All kinds -/

def boolean? (text : List Char) : Option Setting :=
  match String.ofList text with
  | "true" => some (.ofBool true)
  | "false" => some (.ofBool false)
  | _ => none

def atom? (text : List Char) : Option Setting :=
  [boolean?, integer?, named?, decimal?, date?].findSome? (· text)

def isAtomCharacter (c : Char) : Bool :=
  c.isAlphanum || c == '_' || c == '+' || c == '-' || c == '.' || c == ':'

/-- The scalar that a text starts with, and what follows it. A blank may stand between a date and a
time. -/
def takeAtom? (text : List Char) : Option (Setting × List Char) := do
  let atom := text.takeWhile isAtomCharacter
  let rest := text.dropWhile isAtomCharacter
  let time := (rest.drop 1).takeWhile isAtomCharacter
  if rest.head? == some ' ' && time.head?.any Char.isDigit && (dateText.whole? atom).isSome &&
      atom.length = 10 then
    return (← atom? (atom ++ ' ' :: time), (rest.drop 1).dropWhile isAtomCharacter)
  else return (← atom? atom, rest)

end DotQuery.Toml

import DotQuery.Decimal.Basic
import DotQuery.Text.Blank
import DotQuery.Text.Natural
import DotQuery.Text.Numeric

/-!
Decimal literals: an optional sign, digits with an optional point before, between or after them,
and an optional exponent. Reading takes the longest literal that a text starts with. Digits of any
script belong to a literal, but only one in ASCII digits denotes a number.
-/

namespace DotQuery

structure Numeral where
  negative : Bool
  whole : List Char
  fraction : List Char
  exponentNegative : Bool
  exponent : List Char
deriving DecidableEq

namespace Numeral

def takeDigits (text : List Char) : List Char × List Char :=
  (text.takeWhile Text.isDecimalDigit, text.dropWhile Text.isDecimalDigit)

/-- An optional sign, true for minus. -/
def takeSign : List Char → Bool × List Char
  | '-' :: rest => (true, rest)
  | '+' :: rest => (false, rest)
  | text => (false, text)

/-- The digits before and after an optional point, at least one in all. -/
def takeSignificand? (text : List Char) : Option ((List Char × List Char) × List Char) :=
  match takeDigits text with
  | ([], '.' :: rest) =>
    match takeDigits rest with
    | ([], _) => none
    | (fraction, rest) => some (([], fraction), rest)
  | ([], _) => none
  | (whole, '.' :: rest) =>
    let (fraction, rest) := takeDigits rest
    some ((whole, fraction), rest)
  | (whole, rest) => some ((whole, []), rest)

/-- The sign and digits of an exponent; a mark without digits after it belongs to the rest. -/
def takeExponent (text : List Char) : (Bool × List Char) × List Char :=
  match text with
  | mark :: rest =>
    if mark = 'e' ∨ mark = 'E' then
      let (negative, rest) := takeSign rest
      match takeDigits rest with
      | ([], _) => ((false, []), text)
      | (digits, rest) => ((negative, digits), rest)
    else ((false, []), text)
  | [] => ((false, []), text)

/-- The longest literal that `text` starts with, and what follows it. -/
def take? (text : List Char) : Option (Numeral × List Char) := do
  let (negative, rest) := takeSign text
  let ((whole, fraction), rest) ← takeSignificand? rest
  let ((exponentNegative, exponent), rest) := takeExponent rest
  return (⟨negative, whole, fraction, exponentNegative, exponent⟩, rest)

def isAscii (n : Numeral) : Bool :=
  n.whole.all Char.isDigit && n.fraction.all Char.isDigit && n.exponent.all Char.isDigit

def toDecimal (n : Numeral) : Decimal :=
  let exponent : Int := Text.digitsValue n.exponent
  ⟨n.negative, Text.digitsValue (n.whole ++ n.fraction),
    (if n.exponentNegative then -exponent else exponent) - n.fraction.length⟩

def toBinary64? (n : Numeral) : Option Binary64 :=
  if n.isAscii then some n.toDecimal.toBinary64 else none

/-- The finite number that the literal denotes. -/
def finite? (n : Numeral) : Option Finite64 :=
  n.toBinary64?.bind Binary64.finite?

end Numeral

/-- The finite number that `text` denotes as a whole, white space at its ends apart. -/
def parseNumber? (text : List Char) : Option Finite64 :=
  match Numeral.take? (Text.trim text) with
  | some (numeral, []) => numeral.finite?
  | _ => none

/-- The finite number that the longest literal at the start of `text` denotes, after white space. -/
def parseLeadingNumber? (text : List Char) : Option Finite64 := do
  let (numeral, _) ← Numeral.take? (Text.trimStart text)
  numeral.finite?

/-- The number that `text` is written for as a whole; infinity and NaN have names, in any case. -/
def Binary64.read? (text : List Char) : Option Binary64 :=
  match Numeral.take? text with
  | some (numeral, []) => numeral.toBinary64?
  | some _ => none
  | none =>
    let (negative, name) := Numeral.takeSign text
    let name := String.ofList (name.map Char.toLower)
    if name == "inf" || name == "infinity" then some (.infinite negative)
    else if name == "nan" then some .nan
    else none

end DotQuery

import DotQuery.Json.Basic
import DotQuery.Json.Float
import DotQuery.Text.Natural

/-!
The tokens of JSON text: brackets, separators and scalars, with white space between them. A text
that is no sequence of tokens has none: control characters or unknown escapes in a string, a number
with superfluous zeros. A string with half of a surrogate pair and a number beyond the finite range
are tokens, but stand for no value.
-/

namespace DotQuery

namespace Json

inductive Token where
  | openArray
  | closeArray
  | openObject
  | closeObject
  | comma
  | colon
  | scalar (value : Json)
  | brokenText
  | boundlessNumber

def isSpace (c : Char) : Bool :=
  c == ' ' || c == '\n' || c == '\t' || c == '\r'

def escaped? : Char → Option Char
  | '"' => some '"'
  | '\\' => some '\\'
  | '/' => some '/'
  | 'b' => some '\x08'
  | 'f' => some '\x0c'
  | 'n' => some '\n'
  | 'r' => some '\r'
  | 't' => some '\t'
  | _ => none

/-- What a string is written with: characters, and halves of surrogate pairs. -/
inductive Piece where
  | character (c : Char)
  | lead (unit : Nat)
  | trail (unit : Nat)

def Piece.ofUnit (unit : Nat) : Piece :=
  if 0xD800 ≤ unit && unit < 0xDC00 then .lead unit
  else if 0xDC00 ≤ unit && unit < 0xE000 then .trail unit
  else .character (Char.ofNat unit)

def surrogatePair (lead trail : Nat) : Char :=
  Char.ofNat (0x10000 + (lead - 0xD800) * 0x400 + (trail - 0xDC00))

/-- The characters of pieces in which every half has its other half. -/
def joinPieces? : List Piece → Option (List Char)
  | [] => some []
  | .character c :: rest => (joinPieces? rest).map (c :: ·)
  | .lead lead :: .trail trail :: rest => (joinPieces? rest).map (surrogatePair lead trail :: ·)
  | _ => none

/-- The pieces of a string up to its closing quote, and what follows the quote. -/
def takeString? : List Char → Option (List Piece × List Char)
  | '"' :: rest => some ([], rest)
  | '\\' :: 'u' :: a :: b :: c :: d :: rest => do
    let unit ← Text.numeral? 16 [a, b, c, d]
    let (pieces, rest) ← takeString? rest
    return (.ofUnit unit :: pieces, rest)
  | '\\' :: c :: rest => do
    let c ← escaped? c
    let (pieces, rest) ← takeString? rest
    return (.character c :: pieces, rest)
  | c :: rest =>
    if c == '\\' || c.toNat < 0x20 then none
    else do
      let (pieces, rest) ← takeString? rest
      return (.character c :: pieces, rest)
  | [] => none

/-- The digits before the point: a single zero, or digits that start with no zero. -/
def takeWhole? (text : List Char) : Option (List Char × List Char) :=
  match text with
  | '0' :: rest => some (['0'], rest)
  | _ =>
    match text.takeWhile Char.isDigit with
    | [] => none
    | digits => some (digits, text.dropWhile Char.isDigit)

def takeDigits? (text : List Char) : Option (List Char × List Char) :=
  match text.takeWhile Char.isDigit with
  | [] => none
  | digits => some (digits, text.dropWhile Char.isDigit)

def takeFraction? (text : List Char) : Option (List Char × List Char) :=
  match text with
  | '.' :: rest => takeDigits? rest
  | _ => some ([], text)

def takeExponent? (text : List Char) : Option ((Bool × List Char) × List Char) :=
  match text with
  | mark :: rest =>
    if mark = 'e' ∨ mark = 'E' then do
      let (negative, rest) := Numeral.takeSign rest
      let (digits, rest) ← takeDigits? rest
      return ((negative, digits), rest)
    else some ((false, []), text)
  | [] => some ((false, []), text)

/-- An integer if it is written as one and fits a word; negative zero is none. -/
def ofNumeral? (n : Numeral) : Option Number :=
  let value := Text.digitsValue n.whole
  let signed : Int := if n.negative then -(value : Int) else value
  if h : n.fraction = [] ∧ n.exponent = [] ∧ ¬ (n.negative = true ∧ value = 0) ∧ IsWord signed then
    some (.int signed h.2.2.2)
  else n.readFloat?.map .float

/-- A number, which is none if it lies beyond the finite range, and what follows it. -/
def takeNumber? (text : List Char) : Option (Option Number × List Char) := do
  let (negative, rest) := match text with
    | '-' :: rest => (true, rest)
    | _ => (false, text)
  let (whole, rest) ← takeWhole? rest
  let (fraction, rest) ← takeFraction? rest
  let ((exponentNegative, exponent), rest) ← takeExponent? rest
  return (ofNumeral? ⟨negative, whole, fraction, exponentNegative, exponent⟩, rest)

def Token.ofPieces (pieces : List Piece) : Token :=
  match joinPieces? pieces with
  | some text => .scalar (.str (String.ofList text))
  | none => .brokenText

def Token.ofNumber : Option Number → Token
  | some number => .scalar (.num number)
  | none => .boundlessNumber

/-- The first token of a text that does not start with white space. -/
def takeToken? (text : List Char) : Option (Token × List Char) :=
  match text with
  | '[' :: rest => some (.openArray, rest)
  | ']' :: rest => some (.closeArray, rest)
  | '{' :: rest => some (.openObject, rest)
  | '}' :: rest => some (.closeObject, rest)
  | ',' :: rest => some (.comma, rest)
  | ':' :: rest => some (.colon, rest)
  | '"' :: rest => do
    let (pieces, rest) ← takeString? rest
    return (.ofPieces pieces, rest)
  | 'n' :: 'u' :: 'l' :: 'l' :: rest => some (.scalar .null, rest)
  | 't' :: 'r' :: 'u' :: 'e' :: rest => some (.scalar (.bool true), rest)
  | 'f' :: 'a' :: 'l' :: 's' :: 'e' :: rest => some (.scalar (.bool false), rest)
  | _ => do
    let (number, rest) ← takeNumber? text
    return (.ofNumber number, rest)

def tokensWithin? : Nat → List Char → Option (List Token)
  | 0, _ => none
  | fuel + 1, text =>
    match text.dropWhile isSpace with
    | [] => some []
    | text => do
      let (token, rest) ← takeToken? text
      let tokens ← tokensWithin? fuel rest
      return token :: tokens

/-- The tokens of a text; each is at least one character long. -/
def tokens? (text : List Char) : Option (List Token) :=
  tokensWithin? (text.length + 1) text

end Json

end DotQuery

import DotQuery.Decimal.Numeral
import DotQuery.Json.Basic
import DotQuery.Yaml.Reader

/-!
The JSON value of a YAML document. An unquoted scalar is null, a boolean, an integer in decimal,
hexadecimal, octal or binary digits, or a float, and otherwise a string; digits after a leading zero
are a string. Keys are scalars, taken as they are written.
-/

namespace DotQuery

namespace Yaml

def isNullText (text : String) : Bool :=
  text ∈ ["", "~", "null", "Null", "NULL"]

def boolOfText? (text : String) : Option Bool :=
  if text ∈ ["true", "True", "TRUE"] then some true
  else if text ∈ ["false", "False", "FALSE"] then some false
  else none

/-- Several digits of which the first is zero. -/
def hasLeadingZero (digits : List Char) : Bool :=
  1 < digits.length && digits.head? == some '0' && digits.all Char.isDigit

/-- The magnitude that an unsigned text is written for. -/
def magnitude? : List Char → Option Nat
  | '0' :: 'x' :: digits => Text.numeral? 16 digits
  | '0' :: 'o' :: digits => Text.numeral? 8 digits
  | '0' :: 'b' :: digits => Text.numeral? 2 digits
  | digits => if hasLeadingZero digits then none else Text.numeral? 10 digits

def intOfText? : List Char → Option Int
  | '-' :: rest => (magnitude? rest).map fun n => -(n : Int)
  | '+' :: rest => (magnitude? rest).map Int.ofNat
  | text => (magnitude? text).map Int.ofNat

def unsigned (text : List Char) : List Char :=
  match text with
  | '+' :: rest => rest
  | '-' :: rest => rest
  | text => text

/-- The text names an infinity or NaN. -/
def isNonFiniteText (text : List Char) : Bool :=
  String.ofList (unsigned text) ∈ [".inf", ".Inf", ".INF"] ||
    String.ofList text ∈ [".nan", ".NaN", ".NAN"]

def floatOfText? (text : List Char) : Option Finite64 :=
  if hasLeadingZero (unsigned text) then none
  else match Numeral.take? text with
    | some (numeral, []) => numeral.finite?
    | _ => none

/-- Integers outside the words but within 128 bits are no values; beyond these they are floats. -/
def isWide (n : Int) : Bool :=
  -0x80000000000000000000000000000000 ≤ n && n < 0x100000000000000000000000000000000

/-- The value of an unquoted scalar. -/
def plainValue? (text : String) : Option Json :=
  if isNullText text then some .null
  else match boolOfText? text with
    | some value => some (.bool value)
    | none =>
      let float : Json :=
        if isNonFiniteText text.toList then .null
        else match floatOfText? text.toList with
          | some x => .num (.float x)
          | none => .str text
      match intOfText? text.toList with
      | some n =>
        if h : Json.IsWord n then some (.num (.int n h))
        else if isWide n then none
        else some float
      | none => some float

mutual

/-- The value of a tree. -/
def toJson? : Yaml → Option Json
  | .scalar true text => some (.str text)
  | .scalar false text => plainValue? text
  | .sequence items => (itemsToJson? items).map .arr
  | .mapping members => (membersToJson? [] members).map .obj

def itemsToJson? : List Yaml → Option (List Json)
  | [] => some []
  | item :: rest => do
    let item ← toJson? item
    let rest ← itemsToJson? rest
    return item :: rest

/-- The members after those in `done`; a repeated key keeps its first place and its last value. -/
def membersToJson? (done : List (String × Json)) :
    List (Yaml × Yaml) → Option (List (String × Json))
  | [] => some done
  | (.scalar _ key, value) :: rest => do
    let value ← toJson? value
    membersToJson? (Json.insertMember key value done) rest
  | _ => none

end

/-- Characters that may stand in a document. -/
def isPrintable (c : Char) : Bool :=
  let code := c.toNat
  c == '\t' || c == '\n' || c == '\r' || (0x20 ≤ code && code ≤ 0x7E) || code == 0x85 ||
    (0xA0 ≤ code && code ≤ 0xFFFD) || 0x10000 ≤ code

/-- The value of the only document of a text. -/
def readJson? (text : String) : Option Json :=
  let text := text.toList
  if text.all isPrintable then (read? .document text).bind toJson? else none

end Yaml

end DotQuery

import DotQuery.Json.Token
import DotQuery.Settings.Basic
import DotQuery.Text.Cut
import DotQuery.Text.WordCharacter

/-!
The settings of a JSON5 text: JSON with comments, commas before closing brackets, names for keys,
texts between quotes of either kind, and more ways to write a number. Of a repeated key the last one
holds.
-/

namespace DotQuery

namespace Json5

inductive Token where
  | openList
  | closeList
  | openTable
  | closeTable
  | comma
  | colon
  | text (text : String)
  | word (name : String)
  | number (value : Setting)

/-! ### White space and comments -/

def isLineBreak (c : Char) : Bool :=
  c == '\n' || c == '\r' || c == '\u2028' || c == '\u2029'

def isSpace (c : Char) : Bool :=
  (Text.isBlank c && c.toNat != 0x85) || c == '\ufeff'

/-- What follows the comment or white space that a text starts with; `none` if it starts with
neither, or with a comment that does not end. -/
def dropSpace? (text : List Char) : Option (List Char) :=
  match text with
  | '/' :: '/' :: rest => some (rest.dropWhile fun c => !isLineBreak c)
  | '/' :: '*' :: rest => (Text.cut? ['*', '/'] rest).map Prod.snd
  | c :: rest => if isSpace c then some rest else none
  | [] => none

/-! ### Texts and names -/

def escaped (c : Char) : Char :=
  match c with
  | 'b' => '\x08'
  | 'f' => '\x0c'
  | 'n' => '\n'
  | 'r' => '\r'
  | 't' => '\t'
  | 'v' => '\x0b'
  | '0' => '\x00'
  | c => c

/-- Characters that stand for nothing by themselves behind a backslash. -/
def isReservedEscape (c : Char) : Bool :=
  ('1' ≤ c && c ≤ '9') || c == 'x' || c == 'u'

/-- The pieces of a text up to its closing quote, and what follows the quote. -/
def takeText? (quote : Char) : List Char → Option (List Json.Piece × List Char)
  | '\\' :: 'u' :: a :: b :: c :: d :: rest => do
    let unit ← Text.numeral? 16 [a, b, c, d]
    let (pieces, rest) ← takeText? quote rest
    return (.ofUnit unit :: pieces, rest)
  | '\\' :: 'x' :: a :: b :: rest => do
    let unit ← Text.numeral? 16 [a, b]
    let (pieces, rest) ← takeText? quote rest
    return (.ofUnit unit :: pieces, rest)
  | '\\' :: '\r' :: '\n' :: rest => takeText? quote rest
  | '\\' :: c :: rest =>
    if isLineBreak c then takeText? quote rest
    else if isReservedEscape c then none
    else do
      let (pieces, rest) ← takeText? quote rest
      return (.character (escaped c) :: pieces, rest)
  | c :: rest =>
    if c == quote then some ([], rest)
    else if c == '\\' || isLineBreak c then none
    else do
      let (pieces, rest) ← takeText? quote rest
      return (.character c :: pieces, rest)
  | [] => none

def startsName (c : Char) : Bool :=
  Text.isAlphabetic c || c == '$' || c == '_'

def continuesName (c : Char) : Bool :=
  startsName c || Text.isWordCharacter c

/-- The pieces of a name behind its first one, and what follows. -/
def takeNameRest? : List Char → Option (List Json.Piece × List Char)
  | '\\' :: 'u' :: a :: b :: c :: d :: rest => do
    let unit ← Text.numeral? 16 [a, b, c, d]
    let (pieces, rest) ← takeNameRest? rest
    return (.ofUnit unit :: pieces, rest)
  | c :: rest =>
    if continuesName c then do
      let (pieces, rest) ← takeNameRest? rest
      return (.character c :: pieces, rest)
    else some ([], c :: rest)
  | [] => some ([], [])

def takeName? (text : List Char) : Option (Token × List Char) := do
  let first ← text.head?
  if !startsName first && first != '\\' then none
  let (pieces, rest) ← takeNameRest? text
  return (.word (String.ofList (← Json.joinPieces? pieces)), rest)

/-! ### Numbers -/

def takeWhole (text : List Char) : List Char × List Char :=
  match text with
  | '0' :: rest => (['0'], rest)
  | _ => (text.takeWhile Char.isDigit, text.dropWhile Char.isDigit)

/-- Whether there is a point, the digits behind it, and what follows. -/
def takeFraction (text : List Char) : (Bool × List Char) × List Char :=
  match text with
  | '.' :: rest => ((true, rest.takeWhile Char.isDigit), rest.dropWhile Char.isDigit)
  | _ => ((false, []), text)

def signed (negative : Bool) (magnitude : Nat) : Int :=
  if negative then -(magnitude : Int) else magnitude

/-- A number in decimal digits: an integer of a word, unless it has a point or an exponent. -/
def takeDecimal? (negative : Bool) (text : List Char) : Option (Setting × List Char) := do
  let (whole, rest) := takeWhole text
  let ((hasPoint, fraction), rest) := takeFraction rest
  if whole.isEmpty && fraction.isEmpty then none
  let ((exponentNegative, exponent), rest) ← Json.takeExponent? rest
  if hasPoint || !exponent.isEmpty then
    let numeral : Numeral := ⟨negative, whole, fraction, exponentNegative, exponent⟩
    return (.ofFloat (.finite (← numeral.finite?)), rest)
  else
    let value := signed negative (Text.digitsValue whole)
    if Setting.isSigned64 value then return (.ofInt value, rest) else none

def isHexDigit (c : Char) : Bool :=
  (Text.digitValue? c).isSome

/-- An integer of 32 bits in hexadecimal digits. -/
def takeHexadecimal? (text : List Char) : Option (Setting × List Char) := do
  let value ← Text.numeral? 16 (text.takeWhile isHexDigit)
  if value < 0x100000000 then return (.ofInt value, text.dropWhile isHexDigit) else none

/-- Infinity and NaN have names, before which a minus sign may stand. -/
def namedNumber? (negative : Bool) (name : String) : Option Setting :=
  if name == "Infinity" then some (.ofFloat (.infinite negative))
  else if name == "NaN" then some (.ofFloat .nan)
  else none

def takeNumber? (text : List Char) : Option (Setting × List Char) :=
  match text with
  | '0' :: 'x' :: rest | '0' :: 'X' :: rest => takeHexadecimal? rest
  | '+' :: rest => takeDecimal? false rest
  | '-' :: rest =>
    match takeName? rest with
    | some (.word name, rest) => (namedNumber? true name).map fun value => (value, rest)
    | _ => takeDecimal? true rest
  | _ => takeDecimal? false text

/-! ### Tokens -/

/-- The first token of a text that does not start with white space. -/
def takeToken? (text : List Char) : Option (Token × List Char) :=
  match text with
  | '[' :: rest => some (.openList, rest)
  | ']' :: rest => some (.closeList, rest)
  | '\x7b' :: rest => some (.openTable, rest)
  | '\x7d' :: rest => some (.closeTable, rest)
  | ',' :: rest => some (.comma, rest)
  | ':' :: rest => some (.colon, rest)
  | c :: rest =>
    if c == '"' || c == '\'' then do
      let (pieces, rest) ← takeText? c rest
      return (.text (String.ofList (← Json.joinPieces? pieces)), rest)
    else
      takeName? text <|> (takeNumber? text).map fun (value, rest) => (.number value, rest)
  | [] => none

/-- The tokens of a text; `fuel` is more than its length. -/
def tokensWithin? : Nat → List Char → Option (List Token)
  | 0, _ => none
  | _, [] => some []
  | fuel + 1, text =>
    match dropSpace? text with
    | some rest => tokensWithin? fuel rest
    | none => do
      let (token, rest) ← takeToken? text
      return token :: (← tokensWithin? fuel rest)

/-! ### Values -/

def scalar? : Token → Option Setting
  | .text text => some (.scalar true text)
  | .number value => some value
  | .word "null" => some .missing
  | .word "true" => some (.ofBool true)
  | .word "false" => some (.ofBool false)
  | .word name => namedNumber? false name
  | _ => none

def key? : Token → Option String
  | .text text => some text
  | .word name => some name
  | _ => none

mutual

/-- The value that a token list starts with, and what follows it. -/
def takeValue? : Nat → List Token → Option (Setting × List Token)
  | 0, _ => none
  | _, [] => none
  | fuel + 1, token :: rest =>
    match token with
    | .openList => do
      let (items, rest) ← takeItems? fuel rest
      return (.list items, rest)
    | .openTable => do
      let (members, rest) ← takeMembers? fuel [] rest
      return (.table members, rest)
    | token => (scalar? token).map fun value => (value, rest)

/-- Items up to the bracket that closes their list. -/
def takeItems? : Nat → List Token → Option (List Setting × List Token)
  | 0, _ => none
  | fuel + 1, tokens =>
    match tokens with
    | .closeList :: rest => some ([], rest)
    | tokens => do
      let (item, rest) ← takeValue? fuel tokens
      match rest with
      | .comma :: rest =>
        let (items, rest) ← takeItems? fuel rest
        return (item :: items, rest)
      | .closeList :: rest => return ([item], rest)
      | _ => none

/-- Members after those in `done`, up to the brace that closes their table. -/
def takeMembers? : Nat → List (String × Setting) → List Token →
    Option (List (String × Setting) × List Token)
  | 0, _, _ => none
  | fuel + 1, done, tokens =>
    match tokens with
    | .closeTable :: rest => some (done, rest)
    | key :: .colon :: rest => do
      let (value, rest) ← takeValue? fuel rest
      let done := Setting.insertMember (← key? key) value done
      match rest with
      | .comma :: rest => takeMembers? fuel done rest
      | .closeTable :: rest => return (done, rest)
      | _ => none
    | _ => none

end

end Json5

namespace Setting

def readJson5? (text : String) : Option Setting := do
  let tokens ← Json5.tokensWithin? (text.length + 1) text.toList
  match Json5.takeValue? (2 * tokens.length + 1) tokens with
  | some (value, []) => some value
  | _ => none

end Setting

end DotQuery

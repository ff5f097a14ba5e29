import DotQuery.Decimal.Numeral
import DotQuery.Settings.Basic
import DotQuery.Text.Alphabetic
import DotQuery.Text.Cut
import DotQuery.Text.Natural
import DotQuery.Text.WordCharacter

/-!
The settings of a RON text. Structures give tables and tuples give lists, whether they are named or
not; a name alone and the empty tuple give nothing. Keys of maps are texts. Of a repeated key the
last one holds.
-/

namespace DotQuery

namespace Ron

/-! ### White space and comments -/

def isSpace (c : Char) : Bool :=
  c == ' ' || (9 ≤ c.toNat && c.toNat ≤ 13) || c.toNat == 0x85 || c == '\u200e' ||
    c == '\u200f' || c == '\u2028' || c == '\u2029'

/-- What follows a comment of several lines, inside `depth` others. -/
def dropBlockComment? (depth : Nat) : List Char → Option (List Char)
  | '/' :: '*' :: rest => dropBlockComment? (depth + 1) rest
  | '*' :: '/' :: rest => if depth = 0 then some rest else dropBlockComment? (depth - 1) rest
  | _ :: rest => dropBlockComment? depth rest
  | [] => none

/-- What follows white space and comments; `fuel` is more than the length of the text. -/
def dropSpace? : Nat → List Char → Option (List Char)
  | 0, _ => none
  | fuel + 1, text =>
    match text.dropWhile isSpace with
    | '/' :: '/' :: rest => dropSpace? fuel (rest.dropWhile (· != '\n'))
    | '/' :: '*' :: rest => do dropSpace? fuel (← dropBlockComment? 0 rest)
    | rest => some rest

def skip? (text : List Char) : Option (List Char) :=
  dropSpace? (text.length + 1) text

/-! ### Names -/

def startsName (c : Char) : Bool :=
  Text.isAlphabetic c || c == '_'

def continuesName (c : Char) : Bool :=
  startsName c || Text.isWordCharacter c

/-- The name that a text starts with, and what follows it. -/
def takeName? (text : List Char) : Option (String × List Char) := do
  let text := match text with
    | 'r' :: '#' :: c :: rest => if c == '"' || c == '#' then text else c :: rest
    | _ => text
  let first ← text.head?
  if startsName first then
    return (String.ofList (text.takeWhile continuesName), text.dropWhile continuesName)
  else none

/-! ### Texts -/

def escaped? : Char → Option Char
  | '\'' => some '\''
  | '"' => some '"'
  | '\\' => some '\\'
  | 'n' => some '\n'
  | 'r' => some '\r'
  | 't' => some '\t'
  | '0' => some '\x00'
  | _ => none

/-- The character that an escape stands for behind its backslash, and what follows. -/
def takeEscape? (text : List Char) : Option (Char × List Char) :=
  match text with
  | 'x' :: a :: b :: rest => do
    let code ← Text.numeral? 16 [a, b]
    if code < 0x80 then return (Char.ofNat code, rest) else none
  | 'u' :: '\x7b' :: rest => do
    let (digits, rest) ← Text.cut? ['\x7d'] rest
    if 6 < digits.length then none
    return (← Text.character? (← Text.numeral? 16 digits), rest)
  | c :: rest => (escaped? c).map fun c => (c, rest)
  | [] => none

/-- The characters of a text up to its closing quote, and what follows the quote; `fuel` is more
than their number. -/
def takeText? : Nat → List Char → Option (List Char × List Char)
  | 0, _ => none
  | fuel + 1, text =>
    match text with
    | '"' :: rest => some ([], rest)
    | '\\' :: rest => do
      let (c, rest) ← takeEscape? rest
      let (text, rest) ← takeText? fuel rest
      return (c :: text, rest)
    | c :: rest => do
      let (text, rest) ← takeText? fuel rest
      return (c :: text, rest)
    | [] => none

/-- A text without escapes between quotes that as many hash signs surround. -/
def takeRawText? (text : List Char) : Option (List Char × List Char) :=
  let hashes := text.takeWhile (· == '#')
  match text.drop hashes.length with
  | '"' :: rest => Text.cut? ('"' :: hashes) rest
  | _ => none

/-- A character between single quotes, behind the first of them. -/
def takeCharacter? (text : List Char) : Option (Char × List Char) := do
  let (c, rest) ← match text with
    | '\\' :: rest => takeEscape? rest
    | c :: rest => some (c, rest)
    | [] => none
  match rest with
  | '\'' :: rest => return (c, rest)
  | _ => none

/-! ### Numbers -/

def isNumberCharacter (c : Char) : Bool :=
  c.isAlphanum || c == '_' || c == '+' || c == '-' || c == '.'

/-- The names of the kinds of numbers, which may stand behind one. -/
def kinds : List String :=
  ["i8", "i16", "i32", "i64", "i128", "u8", "u16", "u32", "u64", "u128", "f32", "f64"]

def withoutKind (text : List Char) : List Char :=
  (kinds.findSome? fun kind => Text.dropTrailing? kind.toList text).getD text

def magnitude? (text : List Char) : Option Nat :=
  let digits (text : List Char) : List Char := text.filter (· != '_')
  match text with
  | '_' :: _ => none
  | '0' :: 'x' :: rest => Text.numeral? 16 (digits rest)
  | '0' :: 'o' :: rest => Text.numeral? 8 (digits rest)
  | '0' :: 'b' :: rest => Text.numeral? 2 (digits rest)
  | text => Text.numeral? 10 (digits text)

def integer? (text : List Char) : Option Setting :=
  let (negative, text) := Numeral.takeSign text
  (magnitude? text).map fun n => .ofInt (if negative then -(n : Int) else n)

def number? (text : List Char) : Option Setting :=
  integer? text <|> integer? (withoutKind text) <|>
    (Binary64.read? ((withoutKind text).filter (· != '_'))).map Setting.ofFloat

/-! ### Values -/

/-- A name that is a value by itself. -/
def ofName (name : String) : Setting :=
  match name with
  | "true" => .ofBool true
  | "false" => .ofBool false
  | "inf" | "inff32" | "inff64" => .ofFloat (.infinite false)
  | "NaN" | "NaNf32" | "NaNf64" => .ofFloat .nan
  | _ => .missing

/-- The key of a field, and what follows its colon. -/
def takeField? (text : List Char) : Option (String × List Char) := do
  let (name, rest) ← takeName? text
  match ← skip? rest with
  | ':' :: rest => return (name, rest)
  | _ => none

/-- What follows the comma that a text starts with; the text itself if a closing bracket is there.
-/
def dropComma? (closer : Char) (text : List Char) : Option (List Char) := do
  match ← skip? text with
  | ',' :: rest => return rest
  | c :: rest => if c == closer then return c :: rest else none
  | [] => none

mutual

/-- The value that a text starts with, behind white space, and what follows it. -/
def takeValue? : Nat → List Char → Option (Setting × List Char)
  | 0, _ => none
  | fuel + 1, text => do
    let text ← skip? text
    match text with
    | '[' :: rest =>
      let (items, rest) ← takeItems? ']' fuel rest
      return (.list items, rest)
    | '\x7b' :: rest =>
      let (members, rest) ← takeMembers? fuel [] rest
      return (.table members, rest)
    | '(' :: rest => takeGroup? fuel rest
    | '"' :: rest =>
      let (text, rest) ← takeText? text.length rest
      return (.scalar true (String.ofList text), rest)
    | '\'' :: rest =>
      let (c, rest) ← takeCharacter? rest
      return (.scalar true (String.ofList [c]), rest)
    | 'r' :: rest =>
      match takeRawText? rest with
      | some (text, rest) => return (.scalar true (String.ofList text), rest)
      | none => takeNamed? fuel text
    | c :: _ =>
      if startsName c then takeNamed? fuel text
      else
        let number ← number? (text.takeWhile isNumberCharacter)
        return (number, text.dropWhile isNumberCharacter)
    | [] => none

/-- A value that starts with a name. -/
def takeNamed? : Nat → List Char → Option (Setting × List Char)
  | 0, _ => none
  | fuel + 1, text => do
    let (name, rest) ← takeName? text
    match ← skip? rest with
    | '(' :: behind =>
      if name == "Some" then
        let (value, rest) ← takeValue? fuel behind
        match ← skip? rest with
        | ')' :: rest => return (value, rest)
        | ',' :: rest =>
          match ← skip? rest with
          | ')' :: rest => return (value, rest)
          | _ => none
        | _ => none
      else takeGroup? fuel behind
    | _ => return (ofName name, rest)

/-- What stands between round brackets: fields or items, or nothing. -/
def takeGroup? : Nat → List Char → Option (Setting × List Char)
  | 0, _ => none
  | fuel + 1, text => do
    let text ← skip? text
    match text with
    | ')' :: rest => return (.missing, rest)
    | _ =>
      if (takeField? text).isSome then
        let (members, rest) ← takeFields? fuel [] text
        return (.table members, rest)
      else
        let (items, rest) ← takeItems? ')' fuel text
        return (.list items, rest)

def takeItems? (closer : Char) : Nat → List Char → Option (List Setting × List Char)
  | 0, _ => none
  | fuel + 1, text => do
    let text ← skip? text
    if text.head? == some closer then return ([], text.drop 1)
    let (item, rest) ← takeValue? fuel text
    let (items, rest) ← takeItems? closer fuel (← dropComma? closer rest)
    return (item :: items, rest)

def takeMembers? : Nat → List (String × Setting) → List Char →
    Option (List (String × Setting) × List Char)
  | 0, _, _ => none
  | fuel + 1, done, text => do
    let text ← skip? text
    if text.head? == some '\x7d' then return (done, text.drop 1)
    match ← takeValue? fuel text with
    | (.scalar true key, rest) =>
      match ← skip? rest with
      | ':' :: rest =>
        let (value, rest) ← takeValue? fuel rest
        takeMembers? fuel (Setting.insertMember key value done) (← dropComma? '\x7d' rest)
      | _ => none
    | _ => none

def takeFields? : Nat → List (String × Setting) → List Char →
    Option (List (String × Setting) × List Char)
  | 0, _, _ => none
  | fuel + 1, done, text => do
    let text ← skip? text
    if text.head? == some ')' then return (done, text.drop 1)
    let (key, rest) ← takeField? text
    let (value, rest) ← takeValue? fuel rest
    takeFields? fuel (Setting.insertMember key value done) (← dropComma? ')' rest)

end

/-! ### Whole texts -/

def extensions : List String :=
  ["unwrap_newtypes", "implicit_some", "unwrap_variant_newtypes", "explicit_struct_names"]

/-- What follows the names of extensions up to the bracket that closes their list; `fuel` bounds
their number. -/
def dropExtensionNames? : Nat → List Char → Option (List Char)
  | 0, _ => none
  | fuel + 1, text => do
    match ← skip? text with
    | ')' :: rest => return rest
    | text =>
      let (name, rest) ← takeName? text
      if extensions.contains name then dropExtensionNames? fuel (← dropComma? ')' rest) else none

/-- What follows the lines before a value that turn extensions on; `fuel` bounds their number. -/
def dropExtensions? : Nat → List Char → Option (List Char)
  | 0, _ => none
  | fuel + 1, text => do
    match ← skip? text with
    | '#' :: rest =>
      let rest ← ['!'].isPrefixOf? (← skip? rest)
      let rest ← ['['].isPrefixOf? (← skip? rest)
      let rest ← "enable".toList.isPrefixOf? (← skip? rest)
      let rest ← ['('].isPrefixOf? (← skip? rest)
      let rest ← dropExtensionNames? (rest.length + 1) rest
      let rest ← [']'].isPrefixOf? (← skip? rest)
      dropExtensions? fuel rest
    | rest => return rest

end Ron

namespace Setting

def readRon? (text : String) : Option Setting := do
  let text ← Ron.dropExtensions? (text.length + 1) text.toList
  let (value, rest) ← Ron.takeValue? (2 * text.length + 1) text
  if (← Ron.skip? rest).isEmpty then return value else none

end Setting

end DotQuery

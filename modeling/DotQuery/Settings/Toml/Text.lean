import DotQuery.Text.Natural

/-!
Texts, keys and white space in TOML. A text stands between quotes, of which the double ones admit
escapes; between three quotes it may have several lines, and the break behind the opening quotes
does not belong to it.
-/

namespace DotQuery.Toml

/-! ### White space -/

def isSpace (c : Char) : Bool :=
  c == ' ' || c == '\t'

/-- Control characters other than the tab, which comments and texts may not hold. -/
def isControl (c : Char) : Bool :=
  (c.toNat < 0x20 && c != '\t') || c.toNat == 0x7F

def dropSpaces (text : List Char) : List Char :=
  text.dropWhile isSpace

def dropComment (text : List Char) : List Char :=
  match text with
  | '#' :: rest => rest.dropWhile fun c => !isControl c
  | text => text

/-- What follows the line break that a text starts with. -/
def dropBreak? (text : List Char) : Option (List Char) :=
  match text with
  | '\n' :: rest => some rest
  | '\r' :: '\n' :: rest => some rest
  | _ => none

/-- What follows the line, on which nothing but a comment may be left. -/
def dropLine? (text : List Char) : Option (List Char) :=
  match dropComment (dropSpaces text) with
  | [] => some []
  | text => dropBreak? text

/-- What follows white space, comments and line breaks; `fuel` bounds the number of lines. -/
def dropGap : Nat → List Char → List Char
  | 0, text => text
  | fuel + 1, text =>
    let text := dropSpaces text
    match dropBreak? (dropComment text) with
    | some rest => dropGap fuel rest
    | none => text

/-! ### Texts -/

def escaped? : Char → Option Char
  | 'b' => some '\x08'
  | 't' => some '\t'
  | 'n' => some '\n'
  | 'f' => some '\x0c'
  | 'r' => some '\r'
  | 'e' => some '\x1b'
  | '"' => some '"'
  | '\\' => some '\\'
  | _ => none

def codeWidth? : Char → Option Nat
  | 'x' => some 2
  | 'u' => some 4
  | 'U' => some 8
  | _ => none

/-- The character that an escape stands for behind its backslash, and what follows. -/
def takeEscape? (text : List Char) : Option (Char × List Char) :=
  match text with
  | [] => none
  | c :: rest =>
    match codeWidth? c with
    | some width => do
      if rest.length < width then none
      let code ← Text.numeral? 16 (rest.take width)
      return (← Text.character? code, rest.drop width)
    | none => (escaped? c).map fun c => (c, rest)

/-- The characters of a text on one line up to its closing quote, and what follows the quote; `fuel`
is more than their number. -/
def takeLineText? (quote : Char) : Nat → List Char → Option (List Char × List Char)
  | 0, _ => none
  | _, [] => none
  | fuel + 1, c :: rest =>
    if c == quote then some ([], rest)
    else if quote == '"' && c == '\\' then do
      let (c, rest) ← takeEscape? rest
      let (text, rest) ← takeLineText? quote fuel rest
      return (c :: text, rest)
    else if isControl c then none
    else do
      let (text, rest) ← takeLineText? quote fuel rest
      return (c :: text, rest)

/-- What follows a backslash at the end of a line: all white space is passed over. -/
def dropJoint? (text : List Char) : Option (List Char) :=
  (dropBreak? (dropSpaces text)).map fun rest =>
    rest.dropWhile fun c => isSpace c || c == '\n' || c == '\r'

/-- The characters of a text up to three closing quotes, before which two more may belong to it, and
what follows them; `fuel` is more than the number of characters. -/
def takeLinesText? (quote : Char) : Nat → List Char → Option (List Char × List Char)
  | 0, _ => none
  | _, [] => none
  | fuel + 1, c :: rest => do
    let quotes := ((c :: rest).takeWhile (· == quote)).length
    if 5 < quotes then none
    if 3 ≤ quotes then
      return (List.replicate (quotes - 3) quote, (c :: rest).drop quotes)
    let (piece, rest) ←
      if quote == '"' && c == '\\' then
        match dropJoint? rest with
        | some rest => some ([], rest)
        | none => (takeEscape? rest).map fun (c, rest) => ([c], rest)
      else match dropBreak? (c :: rest) with
        | some rest => some (['\n'], rest)
        | none => if isControl c then none else some ([c], rest)
    let (text, rest) ← takeLinesText? quote fuel rest
    return (piece ++ text, rest)

/-- The text that starts with a quote, and what follows it. -/
def takeText? (text : List Char) : Option (String × List Char) := do
  let quote ← text.head?
  let (text, rest) ←
    if [quote, quote, quote].isPrefixOf text then
      let body := text.drop 3
      takeLinesText? quote (body.length + 1) ((dropBreak? body).getD body)
    else takeLineText? quote text.length (text.drop 1)
  return (String.ofList text, rest)

/-! ### Keys -/

def isNameLetter (c : Char) : Bool :=
  c.isAlphanum || c == '_' || c == '-'

/-- One part of a key: a name, or a text on one line. -/
def takePart? (text : List Char) : Option (String × List Char) :=
  match text with
  | [] => none
  | c :: rest =>
    if c == '"' || c == '\'' then
      (takeLineText? c text.length rest).map fun (text, rest) => (String.ofList text, rest)
    else match text.takeWhile isNameLetter with
      | [] => none
      | name => some (String.ofList name, text.dropWhile isNameLetter)

/-- The parts of a key behind the first one, with points before them, and what follows the white
space behind the key; `fuel` bounds the number of parts. -/
def takeParts? : Nat → List Char → Option (List String × List Char)
  | 0, _ => none
  | fuel + 1, text =>
    match dropSpaces text with
    | '.' :: rest => do
      let (part, rest) ← takePart? (dropSpaces rest)
      let (parts, rest) ← takeParts? fuel rest
      return (part :: parts, rest)
    | rest => some ([], rest)

/-- A key as the parts before the last one and the last one. -/
def takeKey? (text : List Char) : Option ((List String × String) × List Char) := do
  let (first, rest) ← takePart? text
  let (parts, rest) ← takeParts? (rest.length + 1) rest
  let key := first :: parts
  return ((key.dropLast, ← key.getLast?), rest)

end DotQuery.Toml

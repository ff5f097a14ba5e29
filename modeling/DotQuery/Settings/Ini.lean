import DotQuery.Settings.Basic
import DotQuery.Text.Blank
import DotQuery.Text.Natural

/-!
The settings of an INI text: pairs of a key and a text, some of them in sections, which give tables.
Of a repeated key or section the last one holds. Comments stand on lines of their own, without white
space before them. A backslash escapes the character behind it wherever it stands.
-/

namespace DotQuery

namespace Ini

def escaped (c : Char) : Char :=
  match c with
  | '0' => '\x00'
  | 'a' => '\x07'
  | 'b' => '\x08'
  | 't' => '\t'
  | 'r' => '\r'
  | 'n' => '\n'
  | c => c

/-- The characters up to one of those that end the text, and what follows from there. The end of the
whole text counts only if `endsWithText`. -/
def takeUntil? (isEnd : Char → Bool) (endsWithText : Bool) :
    List Char → Option (List Char × List Char)
  | [] => if endsWithText then some ([], []) else none
  | '\\' :: 'x' :: a :: b :: c :: d :: rest => do
    let code ← Text.character? (← Text.numeral? 16 [a, b, c, d])
    let (text, rest) ← takeUntil? isEnd endsWithText rest
    return (code :: text, rest)
  | '\\' :: c :: rest => do
    if c == 'x' then none
    let (text, rest) ← takeUntil? isEnd endsWithText rest
    return (if c == '\n' then text else escaped c :: text, rest)
  | c :: rest =>
    if isEnd c then some ([], c :: rest)
    else if c == '\\' then none
    else do
      let (text, rest) ← takeUntil? isEnd endsWithText rest
      return (c :: text, rest)

def isLineBreak (c : Char) : Bool :=
  c == '\n' || c == '\r'

/-- The parts of a value: texts between quotes, and last a text up to the end of the line; `fuel`
bounds their number. White space is taken off the end, and off the start of the first part. -/
def takeValueParts? (isFirst : Bool) : Nat → List Char → Option (List Char × List Char)
  | 0, _ => none
  | fuel + 1, text =>
    match text with
    | [] => some ([], [])
    | c :: rest =>
      if c == '"' || c == '\'' then do
        let (quoted, rest) ← takeUntil? (· == c) false rest
        let (others, rest) ← takeValueParts? false fuel (rest.drop 1)
        return (quoted ++ others, rest)
      else do
        let (line, rest) ← takeUntil? isLineBreak true text
        return (if isFirst then Text.trim line else Text.trimEnd line, rest)

def takeValue? (text : List Char) : Option (String × List Char) := do
  let text := text.dropWhile fun c => Text.isBlank c && !isLineBreak c
  let (value, rest) ← takeValueParts? true (text.length + 1) text
  return (String.ofList value, rest)

def takeTrimmed? (isEnd : Char → Bool) (text : List Char) : Option (String × List Char) := do
  let (name, rest) ← takeUntil? isEnd false text
  return (String.ofList (Text.trim name), rest)

/-- What has been read of a text: the pairs outside sections and the sections before the last one,
the last section with its name, and the key that awaits its value. -/
structure Progress where
  outside : List (String × Setting)
  sections : List (String × Setting)
  current : Option (String × List (String × Setting))
  key : String

namespace Progress

/-- Everything that has been read, in its order. -/
def close (done : Progress) : List (String × Setting) :=
  done.sections ++ (done.current.map fun part => (part.1, .table part.2)).toList

def addPair (value : String) (done : Progress) : Progress :=
  let pair := Setting.insertMember done.key (.scalar true value)
  match done.current with
  | some (name, members) => { done with current := some (name, pair members), key := "" }
  | none => { done with outside := pair done.outside, key := "" }

def startSection (name : String) (done : Progress) : Progress :=
  { done with sections := done.close, current := some (name, []) }

/-- All pairs and sections as one table. -/
def toSetting (done : Progress) : Setting :=
  .table (done.close.foldl (fun members part =>
    Setting.insertMember part.1 part.2 members) done.outside)

end Progress

/-- What follows a comment with its line. -/
def dropComment (text : List Char) : List Char :=
  (text.dropWhile (· != '\n')).drop 1

/-- Reads the rest of a text; `fuel` is more than its length, and `atStart` says whether it starts a
line. -/
def readAll? : Nat → Bool → Progress → List Char → Option Progress
  | 0, _, _, _ => none
  | fuel + 1, atStart, done, text =>
    let blank := text.takeWhile Text.isBlank
    let atStart := if blank.isEmpty then atStart else blank.getLast? == some '\n'
    match text.drop blank.length with
    | [] => some done
    | c :: rest =>
      if c == ';' || c == '#' then
        if atStart then readAll? fuel true done (dropComment rest) else none
      else if c == '[' then do
        let (name, rest) ← takeTrimmed? (· == ']') rest
        readAll? fuel false (done.startSection name) (rest.drop 1)
      else if c == '=' || c == ':' then do
        if done.key.isEmpty then none
        let (value, rest) ← takeValue? rest
        readAll? fuel false (done.addPair value) rest
      else do
        let (key, rest) ← takeTrimmed? (fun c => c == '=' || c == ':') (c :: rest)
        readAll? fuel false { done with key := key } rest

end Ini

namespace Setting

def readIni? (text : String) : Option Setting :=
  (Ini.readAll? (2 * text.length + 2) true ⟨[], [], none, ""⟩ text.toList).map
    Ini.Progress.toSetting

end Setting

end DotQuery

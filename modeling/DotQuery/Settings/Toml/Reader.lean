import DotQuery.Settings.Toml.Atom
import DotQuery.Settings.Toml.Node
import DotQuery.Settings.Toml.Text

/-!
The settings of a TOML text. Each line holds a pair of a key and a value, the header of a table, or
nothing; a value in brackets may go on over several lines.
-/

namespace DotQuery.Toml

open Node (Members)

/-- What follows the equals sign behind a key. -/
def dropEquals? (text : List Char) : Option (List Char) :=
  match dropSpaces text with
  | '=' :: rest => some (dropSpaces rest)
  | _ => none

mutual

/-- The value that a text starts with, and what follows it. -/
def takeValue? : Nat → List Char → Option (Setting × List Char)
  | 0, _ => none
  | fuel + 1, text =>
    match text with
    | '[' :: rest => do
      let (items, rest) ← takeItems? fuel rest
      return (.list items, rest)
    | '\x7b' :: rest => do
      let (members, rest) ← takePairs? fuel [] rest
      return (.table (Node.membersToSettings members), rest)
    | c :: _ =>
      if c == '"' || c == '\'' then
        (takeText? text).map fun (text, rest) => (.scalar true text, rest)
      else takeAtom? text
    | [] => none

/-- Items up to the bracket that closes their array. -/
def takeItems? : Nat → List Char → Option (List Setting × List Char)
  | 0, _ => none
  | fuel + 1, text =>
    match dropGap (fuel + 1) text with
    | ']' :: rest => some ([], rest)
    | text => do
      let (item, rest) ← takeValue? fuel text
      match dropGap (fuel + 1) rest with
      | ',' :: rest =>
        let (items, rest) ← takeItems? fuel rest
        return (item :: items, rest)
      | ']' :: rest => return ([item], rest)
      | _ => none

/-- Pairs behind those in `done`, up to the brace that closes their table. -/
def takePairs? : Nat → Members → List Char → Option (Members × List Char)
  | 0, _, _ => none
  | fuel + 1, done, text =>
    match dropGap (fuel + 1) text with
    | '\x7d' :: rest => some (done, rest)
    | text => do
      let ((path, key), rest) ← takeKey? text
      let (value, rest) ← takeValue? fuel (← dropEquals? rest)
      let done ← Node.insertPair? path key value done
      match dropGap (fuel + 1) rest with
      | ',' :: rest => takePairs? fuel done rest
      | '\x7d' :: rest => return (done, rest)
      | _ => none

end

/-- What has been read of a text: its tables, and the keys that lead to the one that pairs go to. -/
structure Progress where
  root : Members
  place : List String

/-- The progress behind the header of a table or, if `isElement`, of one of several tables. -/
def startSection? (isElement : Bool) (done : Progress) (text : List Char) :
    Option (Progress × List Char) := do
  let ((path, key), rest) ← takeKey? (dropSpaces text)
  let rest ← (if isElement then [']', ']'] else [']']).isPrefixOf? rest
  let start := if isElement then Node.startElement? else Node.startTable?
  return (⟨← start path key done.root, path ++ [key]⟩, rest)

/-- The progress behind a pair. -/
def addPair? (fuel : Nat) (done : Progress) (text : List Char) :
    Option (Progress × List Char) := do
  let ((path, key), rest) ← takeKey? text
  let (value, rest) ← takeValue? fuel (← dropEquals? rest)
  let insert (_ : TableOrigin) := Node.insertPair? path key value
  let root ← Node.changeTable? false insert done.place .header done.root
  return ({ done with root := root }, rest)

/-- The tables of a text behind what has been read before it; `fuel` is more than its length. -/
def readLines? : Nat → Progress → List Char → Option Members
  | 0, _, _ => none
  | _, done, [] => some done.root
  | fuel + 1, done, text => do
    let text := dropSpaces text
    let (done, rest) ← match text with
      | '[' :: '[' :: rest => startSection? true done rest
      | '[' :: rest => startSection? false done rest
      | c :: _ =>
        if c == '#' || c == '\n' || c == '\r' then some (done, text)
        else addPair? (fuel + 1) done text
      | [] => some (done, text)
    readLines? fuel done (← dropLine? rest)

end DotQuery.Toml

namespace DotQuery.Setting

def readToml? (text : String) : Option Setting := do
  let members ← Toml.readLines? (text.length + 1) ⟨[], []⟩ text.toList
  return .table (Toml.Node.membersToSettings members)

end DotQuery.Setting

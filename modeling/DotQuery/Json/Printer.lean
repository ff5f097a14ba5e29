import DotQuery.Decimal.Layout
import DotQuery.Json.Basic

/-!
JSON texts: the compact one, in which nothing stands between the tokens, and the indented one, with
two spaces a level and empty containers closed at once. Strings escape the quote, the backslash and
the control characters below the space.
-/

namespace DotQuery

/-- Floats are positional from 0.00001 up to sixteen digits before the point, and always show a
fraction or an exponent. -/
def Number.layout : Decimal.Layout where
  tie := .even
  lowest := some (-5)
  highest := some 15
  wholeMark := ['.', '0']
  plusSign := true

def Number.write : Number → List Char
  | .int n _ => Decimal.signChars (n < 0) ++ Decimal.digitChars n.natAbs
  | .float x => Number.layout.write (x.shortest Number.layout.tie)

namespace Json

def escape (c : Char) : List Char :=
  match c with
  | '"' => ['\\', '"']
  | '\\' => ['\\', '\\']
  | '\n' => ['\\', 'n']
  | '\r' => ['\\', 'r']
  | '\t' => ['\\', 't']
  | '\x08' => ['\\', 'b']
  | '\x0c' => ['\\', 'f']
  | c =>
    if c.toNat < 0x20 then
      ['\\', 'u', '0', '0', Nat.digitChar (c.toNat / 16), Nat.digitChar (c.toNat % 16)]
    else [c]

def quote (text : String) : List Char :=
  '"' :: (text.toList.flatMap escape ++ ['"'])

def writeBool (value : Bool) : List Char :=
  if value then ['t', 'r', 'u', 'e'] else ['f', 'a', 'l', 's', 'e']

def writeNull : List Char :=
  ['n', 'u', 'l', 'l']

mutual

def write : Json → List Char
  | .null => writeNull
  | .bool value => writeBool value
  | .num value => value.write
  | .str value => quote value
  | .arr items => '[' :: writeItems items
  | .obj members => '{' :: writeMembers members

/-- The items with what separates and closes them. -/
def writeItems : List Json → List Char
  | [] => [']']
  | [item] => write item ++ [']']
  | item :: rest => write item ++ ',' :: writeItems rest

def writeMembers : List (String × Json) → List Char
  | [] => ['}']
  | [(key, value)] => quote key ++ ':' :: (write value ++ ['}'])
  | (key, value) :: rest => quote key ++ ':' :: (write value ++ ',' :: writeMembers rest)

end

def compact (value : Json) : String :=
  String.ofList value.write

def newline (depth : Nat) : List Char :=
  '\n' :: List.replicate (2 * depth) ' '

mutual

def writeIndented (depth : Nat) : Json → List Char
  | .arr [] => ['[', ']']
  | .arr items => '[' :: (newline (depth + 1) ++ writeIndentedItems depth items)
  | .obj [] => ['{', '}']
  | .obj members => '{' :: (newline (depth + 1) ++ writeIndentedMembers depth members)
  | .null => writeNull
  | .bool value => writeBool value
  | .num value => value.write
  | .str value => quote value

def writeIndentedItems (depth : Nat) : List Json → List Char
  | [] => newline depth ++ [']']
  | [item] => writeIndented (depth + 1) item ++ newline depth ++ [']']
  | item :: rest =>
    writeIndented (depth + 1) item ++ ',' :: (newline (depth + 1) ++ writeIndentedItems depth rest)

def writeIndentedMembers (depth : Nat) : List (String × Json) → List Char
  | [] => newline depth ++ ['}']
  | [(key, value)] =>
    quote key ++ ':' :: ' ' :: (writeIndented (depth + 1) value ++ newline depth ++ ['}'])
  | (key, value) :: rest =>
    quote key ++ ':' :: ' ' :: (writeIndented (depth + 1) value ++
      ',' :: (newline (depth + 1) ++ writeIndentedMembers depth rest))

end

def pretty (value : Json) : String :=
  String.ofList (value.writeIndented 0)

end Json

end DotQuery

import DotQuery.Yaml.Basic

/-!
Places in a YAML text. Characters, lines and columns are counted from zero, and a carriage return
with a line feed is one break of two characters.
-/

namespace DotQuery.Yaml

structure Cursor where
  rest : List Char
  index : Nat
  line : Nat
  column : Nat
  /-- Nothing but white space stands before on the line. -/
  leading : Bool

namespace Cursor

def start (text : List Char) : Cursor :=
  ⟨text, 0, 0, 0, true⟩

/-- Behind the next `count` characters, none of which is a line break. -/
def advance (count : Nat) (here : Cursor) : Cursor :=
  { here with
    rest := here.rest.drop count
    index := here.index + count
    column := here.column + count
    leading := here.leading && (here.rest.take count).all isSpace }

/-- Behind the line break that comes next. -/
def nextLine (here : Cursor) : Cursor :=
  let count := match here.rest with
    | '\r' :: '\n' :: _ => 2
    | _ => 1
  ⟨here.rest.drop count, here.index + count, here.line + 1, 0, true⟩

def skipWhile (p : Char → Bool) (here : Cursor) : Cursor :=
  here.advance (here.rest.takeWhile p).length

def skipComment (dialect : Dialect) (here : Cursor) : Cursor :=
  match here.rest with
  | '#' :: _ => here.skipWhile (!isBreak dialect ·)
  | _ => here

/-- Passes over spaces, tabs and a comment, which must not stand next to what is before it. -/
def skipToLineEnd? (dialect : Dialect) (here : Cursor) : Option Cursor :=
  let next := here.skipWhile isSpace
  if next.rest.head? == some '#' && next.index == here.index then none
  else some (next.skipComment dialect)

end Cursor

end DotQuery.Yaml

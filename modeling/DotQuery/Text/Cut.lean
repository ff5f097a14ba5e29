/-!
Taking texts apart at fixed pieces: a leading or trailing piece, a first occurrence, every
occurrence of a separating character, the ends of lines.
-/

namespace DotQuery.Text

/-- What is left of `text` after a leading `piece`. -/
def dropLeading? (piece text : List Char) : Option (List Char) :=
  piece.isPrefixOf? text

/-- What is left of `text` before a trailing `piece`. -/
def dropTrailing? (piece text : List Char) : Option (List Char) :=
  piece.isSuffixOf? text

/-- The texts before and after the first occurrence of `piece`. -/
def cut? (piece : List Char) : List Char → Option (List Char × List Char)
  | [] => if piece.isEmpty then some ([], []) else none
  | c :: rest =>
    match dropLeading? piece (c :: rest) with
    | some after => some ([], after)
    | none => (cut? piece rest).map fun parts => (c :: parts.1, parts.2)

def contains (piece text : List Char) : Bool :=
  (cut? piece text).isSome

/-- The first of the texts between occurrences of `separator`, and the others. -/
def separate (separator : Char) : List Char → List Char × List (List Char)
  | [] => ([], [])
  | c :: rest =>
    let parts := separate separator rest
    if c = separator then ([], parts.1 :: parts.2) else (c :: parts.1, parts.2)

/-- The texts between occurrences of `separator`, at least one. -/
def fields (separator : Char) (text : List Char) : List (List Char) :=
  let parts := separate separator text
  parts.1 :: parts.2

/-- The lines of a text without what ends them: a line feed, or a carriage return with a line feed
behind it. The last line may end with the text. -/
def lines : List Char → List (List Char)
  | [] => []
  | '\r' :: '\n' :: rest => [] :: lines rest
  | c :: rest =>
    if c = '\n' then [] :: lines rest
    else match lines rest with
      | [] => [[c]]
      | line :: others => (c :: line) :: others

end DotQuery.Text

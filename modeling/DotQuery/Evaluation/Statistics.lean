import DotQuery.Json.Basic

/-!
Numbers of a sequence, and what sums them up. A sum starts from negative zero, so that the sum of
nothing is negative zero and any term keeps its own sign.
-/

namespace DotQuery

namespace Statistics

/-- The numbers among `items`, nulls apart; none if any other item is no number. -/
def numbers? (items : List Json) : Option (List Binary64) :=
  (items.filter fun item => !item.isNull).mapM Json.number?

def sum (values : List Binary64) : Binary64 :=
  values.foldl Binary64.add .negativeZero

def least? : List Binary64 → Option Binary64
  | [] => none
  | value :: rest => some (rest.foldl Binary64.least value)

def greatest? : List Binary64 → Option Binary64
  | [] => none
  | value :: rest => some (rest.foldl Binary64.greatest value)

def mean? (values : List Binary64) : Option Binary64 :=
  if values.isEmpty then none else some ((sum values).divideBy values.length)

/-- The distance between the extremes. -/
def spread? (values : List Binary64) : Option Binary64 := do
  let greatest ← greatest? values
  let least ← least? values
  return greatest.subtract least

end Statistics

end DotQuery

import DotQuery.Query.Cause
import DotQuery.Text.Cut

/-!
The three forms of a query, told apart by how its text begins: a list of queries whose numbers are
combined, a query that is applied to each element of a sequence, and a plain path.
-/

namespace DotQuery.Query

inductive Form where
  | combinator (aggregate : Aggregate) (body : String)
  | broadcast (body : String)
  | path (body : String)
deriving DecidableEq

def listClose : List Char := [']', ')']

def broadcastMark : List Char := ['e', 'a', 'c', 'h', '.']

/-- The aggregate whose list `text` opens, and the text after the opening. -/
def openedList? (text : List Char) : Option (Aggregate × List Char) :=
  Aggregate.all.findSome? fun aggregate =>
    (Text.dropLeading? aggregate.opening.toList text).map fun rest => (aggregate, rest)

def parseForm (query : String) : Except Cause Form :=
  match openedList? query.toList with
  | some (aggregate, rest) =>
    match Text.dropTrailing? listClose rest with
    | some body => .ok (.combinator aggregate (String.ofList body))
    | none => .error (.unclosedList aggregate)
  | none =>
    match Text.dropLeading? broadcastMark query.toList with
    | some body => .ok (.broadcast (String.ofList body))
    | none => .ok (.path query)

end DotQuery.Query

import DotQuery.Query.Equator
import DotQuery.Query.Form
import DotQuery.Query.Segment

/-!
Reading the parts of a query with its whole text at hand. A part may be an item of a list, the body
of a broadcast or the argument of a filter; what is wrong with it is an error of the query that it
stands in, and quotes that query.
-/

namespace DotQuery.Query

namespace Quoting

def fail {α : Type} (query : String) (cause : Cause) : Except QueryError α :=
  .error ⟨cause, query⟩

def parseForm (query : String) : Except QueryError Form :=
  match openedList? query.toList with
  | some (aggregate, rest) =>
    match Text.dropTrailing? listClose rest with
    | some body => .ok (.combinator aggregate (String.ofList body))
    | none => fail query (.unclosedList aggregate)
  | none =>
    match Text.dropLeading? broadcastMark query.toList with
    | some body => .ok (.broadcast (String.ofList body))
    | none => .ok (.path query)

def splitOrFail (query : String) (separator : Char) (text : String) :
    Except QueryError (List (List Char)) :=
  match split separator text.toList with
  | .ok pieces => .ok pieces
  | .error rest => fail query (.unbalanced (String.ofList rest))

def parseSegment (query : String) (text : List Char) : Except QueryError Segment :=
  let raw := String.ofList text
  match Text.cut? ['('] text with
  | none => .ok (.key raw)
  | some (name, rest) =>
    match Operator.ofName? (String.ofList name) with
    | none => fail query (.unknownOperator raw)
    | some operator =>
      match Text.dropTrailing? [')'] rest with
      | none => fail query (.malformedArguments raw)
      | some argument =>
        if Text.isAllBlank argument && !operator.argumentOptional then
          fail query (.noArgument raw)
        else .ok (.call ⟨operator, String.ofList argument, raw⟩)

def parseSegments (query text : String) : Except QueryError (List Segment) := do
  let pieces ← splitOrFail query '.' text
  pieces.mapM (parseSegment query)

def parseItems (query body : String) : Except QueryError (List String) := do
  let pieces ← splitOrFail query ',' body
  return ((pieces.map Text.trim).filter fun item => !item.isEmpty).map String.ofList

def parseEquator (query expression : String) : Except QueryError Equator :=
  let text := expression.toList
  match comparator? text with
  | none => fail query (.noEquator expression)
  | some comparator =>
    match Text.cut? comparator.symbol text with
    | none => fail query (.noEquator expression)
    | some (key, rest) =>
      let operand :=
        match Text.cut? comparator.symbol rest with
        | some (operand, _) => operand
        | none => rest
      .ok ⟨String.ofList key, comparator, String.ofList (stripQuotes operand)⟩

end Quoting

end DotQuery.Query

import DotQuery.Evaluation.Statistics
import DotQuery.Json.Printer

/-!
Operations on the items of a sequence that look at one field of each item.
-/

namespace DotQuery

namespace Sequence

/-- The items with each array among them replaced by its own items, one level deep. -/
def flattenOne (items : List Json) : List Json :=
  items.flatMap fun item =>
    match item with
    | .arr inner => inner
    | item => [item]

/-- What items are told apart by: the compact text of the field, or its absence. -/
def fieldText (key : String) (item : Json) : Option String :=
  (item.member? key).map Json.compact

/-- The first item for each text of the field that is not among `seen`. -/
def uniqueAfter (key : String) (seen : List (Option String)) : List Json → List Json
  | [] => []
  | item :: rest =>
    let text := fieldText key item
    if seen.contains text then uniqueAfter key seen rest
    else item :: uniqueAfter key (text :: seen) rest

/-- The first item for each text of the field; items without the field share one. -/
def uniqueBy (key : String) (items : List Json) : List Json :=
  uniqueAfter key [] items

/-- The sum of the fields that are numbers. -/
def sumBy (key : String) (items : List Json) : Binary64 :=
  Statistics.sum (items.filterMap fun item => (item.member? key).bind Json.number?)

end Sequence

end DotQuery

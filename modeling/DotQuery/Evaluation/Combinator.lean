import DotQuery.Evaluation.Walk

/-!
Combining the numbers of several queries. An item of the list is a decimal literal, taken in
hundredths, or a path that must lead to a number.
-/

namespace DotQuery

open Query

namespace Context

variable [Regex.Engine]

def itemValue (ctx : Context) (item : String) : Attempt Binary64 :=
  match parseNumber? item.toList with
  | some x => .ok (Binary64.finite x).roundToHundredths
  | none => do
    let value ← ctx.evaluatePath item
    Attempt.ofOption (.itemNotNumber item) value.number?

def combine (aggregate : Aggregate) (values : List Binary64) : Option Binary64 :=
  match aggregate with
  | .max => Statistics.greatest? values
  | .min => Statistics.least? values
  | .range => Statistics.spread? values

/-- The aggregate of a list, zero if nothing is in it. -/
def aggregate (ctx : Context) (kind : Aggregate) (body : String) : Attempt Json := do
  let items ← Attempt.ofExcept (parseItems body)
  let values ← items.mapM ctx.itemValue
  return .ofBinary64 ((combine kind values).getD .positiveZero)

end Context

end DotQuery

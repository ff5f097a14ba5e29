import DotQuery.Evaluation.Broadcast
import DotQuery.Evaluation.Combinator
import DotQuery.Query.Form

/-!
Evaluating a query of any form. Every failure names the whole query.
-/

namespace DotQuery

open Query

namespace Context

variable [Regex.Engine]

def evaluateForm (ctx : Context) : Form → Attempt Json
  | .combinator kind body => ctx.aggregate kind body
  | .broadcast body => ctx.broadcast body
  | .path body => ctx.evaluatePath body

def attempt (ctx : Context) (query : String) : Attempt Json := do
  let form ← Attempt.ofExcept (parseForm query)
  ctx.evaluateForm form

/-- The value of a query, or why there is none. -/
def evaluate (ctx : Context) (query : String) : Except (Failure QueryError) Json :=
  (ctx.attempt query).inQuery query

end Context

end DotQuery

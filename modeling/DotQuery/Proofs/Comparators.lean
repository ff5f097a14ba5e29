import DotQuery.Evaluation.Operators
import DotQuery.Proofs.Attempt
import DotQuery.Proofs.Extremes

/-!
# The comparators of a filter

A field stands in at most one order to an operand, and each comparator accepts some orders. Only the
order of a boolean depends on the comparator, and there only on whether it asks for equality. So the
comparators agree on every other field, and the two that ask for equality are opposites everywhere.
-/

namespace DotQuery

open Query

/-! ### Orders that are accepted -/

namespace Query.Comparator

variable {order : Option Ordering}

end Query.Comparator

/-! ### Orders of fields -/

namespace Comparison

variable {key operand : String} {comparator : Comparator} {field : Option Json} {item : Json}

end Comparison

/-! ### Filters -/

namespace Operators

open Comparison

variable {key operand : String} {equal unequal : Call}

theorem filter_arr {call : Call} {equator : Equator}
    (hequator : parseEquator call.argument = .ok equator) (items : List Json) :
    filter call (some (.arr items)) = .ok (.arr (items.filter (keeps equator))) := by
  have hsequence : sequence call (some (.arr items)) = .ok items := rfl
  rw [filter, hsequence, hequator]
  rfl

end Operators

end DotQuery

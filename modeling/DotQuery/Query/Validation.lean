import DotQuery.Decimal.Numeral
import DotQuery.Query.Equator
import DotQuery.Query.Form
import DotQuery.Query.Segment

/-!
Checking a query without a document: its form, its segments and the comparisons of its filters.
-/

namespace DotQuery.Query

def validateSegment : Segment → Except Cause Unit
  | .key _ => .ok ()
  | .call call =>
    if call.operator = .filter then do
      let _ ← parseEquator call.argument
    else .ok ()

def validatePath (path : String) : Except Cause Unit := do
  let segments ← parseSegments path
  segments.forM validateSegment

/-- The texts of a form that are evaluated as paths. -/
def pathsOf : Form → Except Cause (List String)
  | .combinator _ body => do
    let items ← parseItems body
    return items.filter fun item => (parseNumber? item.toList).isNone
  | .broadcast body | .path body => .ok [body]

def validateCause (query : String) : Except Cause Unit := do
  let form ← parseForm query
  let paths ← pathsOf form
  paths.forM validatePath

/-- The error of a query whose own text is at fault. -/
def validate (query : String) : Except QueryError Unit :=
  (validateCause query).mapError fun cause => ⟨cause, query⟩

end DotQuery.Query

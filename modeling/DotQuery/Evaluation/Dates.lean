import DotQuery.Calendar.Age
import DotQuery.Evaluation.Attempt
import DotQuery.Evaluation.Lookup
import DotQuery.Query.Segment

/-!
The operators on dates. Both take a unit, and after a comma a path to a reference date in the
document; an age is measured to the reference date, or without one to the time of the evaluation.
Dates in a sequence are answered one by one.
-/

namespace DotQuery

open Calendar Query

/-- What queries are evaluated against: a document and the time of the evaluation. -/
structure Context where
  root : Json
  now : Moment

namespace Dates

/-- The instant of a value that must be a date. -/
def instantOf (cause : Cause) (value : Option Json) : Attempt Instant :=
  match value.map Instant.ofJson? with
  | none | some (.ok none) => .fail cause
  | some (.ok (some t)) => .ok t
  | some (.error _) => .error .overflow

/-- The path to the reference date that an argument names behind its first comma. -/
def reference? (argument : String) : Option String :=
  match Text.fields ',' argument.toList with
  | _ :: second :: _ =>
    let path := Text.trim second
    if path.isEmpty then none else some (String.ofList path)
  | _ => none

def unit? (argument : String) : Option DateUnit :=
  DateUnit.ofText? (Text.trim (Text.separate ',' argument.toList).1)

/-- The time that ages are measured to. -/
def referenceMoment (ctx : Context) (call : Call) : Attempt Moment :=
  match reference? call.argument with
  | none => .ok ctx.now
  | some path => do
    let t ← instantOf (.invalidReference call.raw path) (ctx.root.lookupPath? path)
    return t.toMoment

/-- The component or age of one value. -/
def stamp (call : Call) (unit : DateUnit) (now : Moment) (value : Option Json) : Attempt Json := do
  let t ← instantOf (.invalidDate call.raw) value
  if call.operator = .date then return .ofInt (component t unit)
  else return .ofInt (← Attempt.ofOption (.invalidDate call.raw) (age? t now unit))

def evaluate (ctx : Context) (call : Call) (base : Option Json) : Attempt Json := do
  let unit ← Attempt.ofOption (.unknownDateUnit call.raw) (unit? call.argument)
  let now ← referenceMoment ctx call
  match base with
  | some (.arr items) => return .arr (← items.mapM fun item => stamp call unit now (some item))
  | value => stamp call unit now value

end Dates

end DotQuery

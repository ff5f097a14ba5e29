import DotQuery.Decimal.Shortest
import DotQuery.Evaluation.Comparison
import DotQuery.Evaluation.Dates
import DotQuery.Evaluation.Sequence
import DotQuery.Regex.Engine

/-!
What each operator makes of the value before it, which may be absent.
-/

namespace DotQuery

open Query

namespace Operators

def sequence (call : Call) (base : Option Json) : Attempt (List Json) :=
  Attempt.ofOption (.notSequence call.raw) (base.bind Json.items?)

def numbers (call : Call) (base : Option Json) : Attempt (List Binary64) := do
  let items ← sequence call base
  Attempt.ofOption (.notAllNumbers call.raw) (Statistics.numbers? items)

/-- The number that the argument gives to be used for an empty sequence. -/
def numericDefault (call : Call) : Attempt (Option Binary64) :=
  let argument := call.trimmedArgument
  if argument.isEmpty then .ok none
  else match parseLeadingNumber? argument.toList with
    | some x => .ok (some (.finite x))
    | none => .fail (.defaultNotNumber argument call.raw)

def map (call : Call) (base : Option Json) : Attempt Json := do
  let key := call.trimmedArgument
  let items ← sequence call base
  let fields ← items.mapM fun item => Attempt.ofOption (.noField key call.raw) (item.member? key)
  return .arr (Sequence.flattenOne fields)

def filter (call : Call) (base : Option Json) : Attempt Json := do
  let items ← sequence call base
  let equator ← Attempt.ofExcept (parseEquator call.argument)
  return .arr (items.filter (Comparison.keeps equator))

/-- The mean in hundredths. A mean that only rounds to zero counts as missing. -/
def roundedMean (fallback : Binary64) (mean : Option Binary64) : Binary64 :=
  match mean with
  | none => fallback
  | some mean =>
    if mean.isZero then .positiveZero
    else
      let rounded := mean.roundToHundredths
      if rounded.isZero then fallback else rounded

def mean (call : Call) (base : Option Json) : Attempt Json := do
  let values ← numbers call base
  let fallback ← numericDefault call
  return .ofBinary64 (roundedMean (fallback.getD .positiveZero) (Statistics.mean? values))

def extremum (find : List Binary64 → Option Binary64) (call : Call) (base : Option Json) :
    Attempt Json := do
  let values ← numbers call base
  match find values with
  | some value => return .ofBinary64 value
  | none => return .ofBinary64 ((← numericDefault call).getD .positiveZero)

def existsText (value : Option Json) : String :=
  if Json.isBlankOrZero value then "false" else "true"

/-- The value that an argument stands for: the number it starts with, or else its text without
quotes. -/
def literal (argument : String) : Json :=
  match parseLeadingNumber? argument.toList with
  | some x => .ofBinary64 (.finite x)
  | none => .str (String.ofList (stripQuotes argument.toList))

def default (call : Call) (base : Option Json) : Json :=
  if Json.isBlank base then literal call.trimmedArgument
  else base.getD .null

variable [Regex.Engine]

def regex (call : Call) (base : Option Json) : Attempt Json :=
  match base with
  | some (.str text) =>
    match Regex.Engine.find? call.argument.toList text.toList with
    | .ok found => .ok (.str (String.ofList (found.getD [])))
    | .error message => .fail (.invalidPattern call.raw message)
  | _ => .fail (.notString call.raw)

def apply (ctx : Context) (call : Call) (base : Option Json) : Attempt Json :=
  match call.operator with
  | .count => do return .ofInt (← sequence call base).length
  | .map => map call base
  | .filter => filter call base
  | .sum => do
    let items ← sequence call base
    return .ofBinary64 (Sequence.sumBy call.trimmedArgument items).roundToHundredths
  | .unique => do
    let items ← sequence call base
    return .arr (Sequence.uniqueBy call.trimmedArgument items)
  | .mean => mean call base
  | .min => extremum Statistics.least? call base
  | .max => extremum Statistics.greatest? call base
  | .range => do
    let values ← numbers call base
    return .ofBinary64 ((Statistics.spread? values).getD .positiveZero)
  | .exists => .ok (.str (existsText base))
  | .default => .ok (default call base)
  | .age | .date => Dates.evaluate ctx call base
  | .regex => regex call base

end Operators

end DotQuery

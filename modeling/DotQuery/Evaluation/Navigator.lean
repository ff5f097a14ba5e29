import DotQuery.Evaluation.Evaluate
import DotQuery.Query.Quoting

/-!
Evaluating a query with its whole text at hand. Where an evaluation stops, be it in a segment, in an
item of a list, at an element of a broadcast or in the argument of an operator, the error of the
query is raised on the spot and quotes the text that the navigator has been given.
-/

namespace DotQuery

open Calendar Query

/-- What a query is evaluated against, and its whole text. -/
structure Navigator extends Context where
  query : String

/-- The result of a query: a value, an error that quotes the query, or none because a written date
leaves the calendar. -/
abbrev Outcome (α : Type) := Except (Failure QueryError) α

def Outcome.ofExcept {α : Type} (result : Except QueryError α) : Outcome α :=
  result.mapError .error

namespace Navigator

def raise {α : Type} (nav : Navigator) (cause : Cause) : Outcome α :=
  .error (.error ⟨cause, nav.query⟩)

/-- The value, or the error for `cause` without one. -/
def orRaise {α : Type} (nav : Navigator) (cause : Cause) : Option α → Outcome α
  | some a => .ok a
  | none => nav.raise cause

/-! ### Operators -/

def sequence (nav : Navigator) (call : Call) (base : Option Json) : Outcome (List Json) :=
  nav.orRaise (.notSequence call.raw) (base.bind Json.items?)

def numbers (nav : Navigator) (call : Call) (base : Option Json) : Outcome (List Binary64) := do
  let items ← nav.sequence call base
  nav.orRaise (.notAllNumbers call.raw) (Statistics.numbers? items)

def numericDefault (nav : Navigator) (call : Call) : Outcome (Option Binary64) :=
  let argument := call.trimmedArgument
  if argument.isEmpty then .ok none
  else match parseLeadingNumber? argument.toList with
    | some x => .ok (some (.finite x))
    | none => nav.raise (.defaultNotNumber argument call.raw)

def map (nav : Navigator) (call : Call) (base : Option Json) : Outcome Json := do
  let key := call.trimmedArgument
  let items ← nav.sequence call base
  let fields ← items.mapM fun item => nav.orRaise (.noField key call.raw) (item.member? key)
  return .arr (Sequence.flattenOne fields)

def filter (nav : Navigator) (call : Call) (base : Option Json) : Outcome Json := do
  let items ← nav.sequence call base
  let equator ← Outcome.ofExcept (Quoting.parseEquator nav.query call.argument)
  return .arr (items.filter (Comparison.keeps equator))

def mean (nav : Navigator) (call : Call) (base : Option Json) : Outcome Json := do
  let values ← nav.numbers call base
  let fallback ← nav.numericDefault call
  return .ofBinary64
    (Operators.roundedMean (fallback.getD .positiveZero) (Statistics.mean? values))

def extremum (nav : Navigator) (find : List Binary64 → Option Binary64) (call : Call)
    (base : Option Json) : Outcome Json := do
  let values ← nav.numbers call base
  match find values with
  | some value => return .ofBinary64 value
  | none => return .ofBinary64 ((← nav.numericDefault call).getD .positiveZero)

def instantOf (nav : Navigator) (cause : Cause) (value : Option Json) : Outcome Instant :=
  match value.map Instant.ofJson? with
  | none | some (.ok none) => nav.raise cause
  | some (.ok (some t)) => .ok t
  | some (.error _) => .error .overflow

def referenceMoment (nav : Navigator) (call : Call) : Outcome Moment :=
  match Dates.reference? call.argument with
  | none => .ok nav.now
  | some path => do
    let t ← nav.instantOf (.invalidReference call.raw path) (nav.root.lookupPath? path)
    return t.toMoment

def stamp (nav : Navigator) (call : Call) (unit : DateUnit) (now : Moment)
    (value : Option Json) : Outcome Json := do
  let t ← nav.instantOf (.invalidDate call.raw) value
  if call.operator = .date then return .ofInt (component t unit)
  else return .ofInt (← nav.orRaise (.invalidDate call.raw) (age? t now unit))

def dates (nav : Navigator) (call : Call) (base : Option Json) : Outcome Json := do
  let unit ← nav.orRaise (.unknownDateUnit call.raw) (Dates.unit? call.argument)
  let now ← nav.referenceMoment call
  match base with
  | some (.arr items) => return .arr (← items.mapM fun item => nav.stamp call unit now (some item))
  | value => nav.stamp call unit now value

variable [Regex.Engine]

def regex (nav : Navigator) (call : Call) (base : Option Json) : Outcome Json :=
  match base with
  | some (.str text) =>
    match Regex.Engine.find? call.argument.toList text.toList with
    | .ok found => .ok (.str (String.ofList (found.getD [])))
    | .error message => nav.raise (.invalidPattern call.raw message)
  | _ => nav.raise (.notString call.raw)

def apply (nav : Navigator) (call : Call) (base : Option Json) : Outcome Json :=
  match call.operator with
  | .count => do return .ofInt (← nav.sequence call base).length
  | .map => nav.map call base
  | .filter => nav.filter call base
  | .sum => do
    let items ← nav.sequence call base
    return .ofBinary64 (Sequence.sumBy call.trimmedArgument items).roundToHundredths
  | .unique => do
    let items ← nav.sequence call base
    return .arr (Sequence.uniqueBy call.trimmedArgument items)
  | .mean => nav.mean call base
  | .min => nav.extremum Statistics.least? call base
  | .max => nav.extremum Statistics.greatest? call base
  | .range => do
    let values ← nav.numbers call base
    return .ofBinary64 ((Statistics.spread? values).getD .positiveZero)
  | .exists => .ok (.str (Operators.existsText base))
  | .default => .ok (Operators.default call base)
  | .age | .date => nav.dates call base
  | .regex => nav.regex call base

/-! ### Walking -/

def checkMember (nav : Navigator) (key : String) (next : Option Segment) (member : Option Json) :
    Outcome (Option Json) :=
  match next with
  | some (.key _) =>
    if member.any Json.isArray then nav.raise (.sequenceBeforeKey key)
    else if member.all Json.isNull then nav.raise (.noObject key)
    else .ok member
  | some (.call call) =>
    if !call.operator.toleratesAbsent && !member.any Json.isArray then
      nav.raise (.noSequence key call.raw)
    else .ok member
  | none => .ok member

def stepKey (nav : Navigator) (parent : Option Json) (key : String) (next : Option Segment) :
    Outcome (Option Json) :=
  match parent with
  | none | some .null => nav.raise (.noObject key)
  | some (.arr _) => nav.raise (.keyOfSequence key)
  | some parent => nav.checkMember key next (parent.member? key)

def stepCall (nav : Navigator) (call : Call) (base : Option Json) : Outcome Json :=
  if !call.operator.toleratesAbsent && !base.any Json.isArray then
    nav.raise (.notSequence call.raw)
  else nav.apply call base

/-- Walks from a value that may be absent. -/
def walkFrom (nav : Navigator) (current : Option Json) : List Segment → Outcome Json
  | [] => nav.orRaise .noResult current
  | .key name :: rest => do
    let value ← nav.stepKey current name rest.head?
    nav.walkFrom value rest
  | .call call :: rest => do
    let value ← nav.stepCall call current
    nav.walkFrom (some value) rest

def walk (nav : Navigator) (start : Json) (segments : List Segment) : Outcome Json :=
  nav.walkFrom (some start) segments

/-- The value of a path, which may be all of the query or a part of it. -/
def evaluatePath (nav : Navigator) (path : String) : Outcome Json := do
  let segments ← Outcome.ofExcept (Quoting.parseSegments nav.query path)
  if segments.any Segment.isCall then nav.walk nav.root segments
  else nav.orRaise (.noObjectPath path) (nav.root.lookup? (segments.filterMap Segment.key?))

/-! ### Lists and broadcasts -/

def itemValue (nav : Navigator) (item : String) : Outcome Binary64 :=
  match parseNumber? item.toList with
  | some x => .ok (Binary64.finite x).roundToHundredths
  | none => do
    let value ← nav.evaluatePath item
    nav.orRaise (.itemNotNumber item) value.number?

def aggregate (nav : Navigator) (kind : Aggregate) (body : String) : Outcome Json := do
  let items ← Outcome.ofExcept (Quoting.parseItems nav.query body)
  let values ← items.mapM nav.itemValue
  return .ofBinary64 ((Context.combine kind values).getD .positiveZero)

def lead (nav : Navigator) (value : Json) (taken : Nat) : List Segment → Outcome Context.Lead
  | .key name :: rest =>
    if value.isArray then .ok ⟨value, taken, .key name :: rest⟩
    else match value.member? name with
      | some member => nav.lead member (taken + 1) rest
      | none => nav.raise (.noObject name)
  | segments => .ok ⟨value, taken, segments⟩

def broadcastItem (nav : Navigator) (rest : List Segment) (item : Json) : Outcome Json :=
  if rest.isEmpty then .ok item else nav.walk (.arr [item]) rest

def broadcast (nav : Navigator) (body : String) : Outcome Json := do
  let segments ← Outcome.ofExcept (Quoting.parseSegments nav.query body)
  let found ← nav.lead nav.root 0 segments
  match found.value with
  | .arr items => return .arr (← items.mapM (nav.broadcastItem found.rest))
  | _ => nav.raise (.broadcastNeedsSequence (Context.leadText body found.taken))

def evaluateForm (nav : Navigator) : Form → Outcome Json
  | .combinator kind body => nav.aggregate kind body
  | .broadcast body => nav.broadcast body
  | .path body => nav.evaluatePath body

end Navigator

variable [Regex.Engine]

/-- The value of a query, or the error that quotes it. -/
def Context.query (ctx : Context) (query : String) : Outcome Json := do
  let form ← Outcome.ofExcept (Quoting.parseForm query)
  Navigator.evaluateForm ⟨ctx, query⟩ form

end DotQuery

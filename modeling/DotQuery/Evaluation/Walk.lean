import DotQuery.Evaluation.Operators

/-!
Walking along the segments of a path. A key leads from an object to one of its members, a call to
what its operator makes of the value. At a key the next segment is looked at: a sequence must be
followed by an operator, an absent value only by one that tolerates it.
-/

namespace DotQuery

open Query

namespace Context

/-- The member at `key` of a value that is followed by `next`. -/
def checkMember (key : String) (next : Option Segment) (member : Option Json) :
    Attempt (Option Json) :=
  match next with
  | some (.key _) =>
    if member.any Json.isArray then .fail (.sequenceBeforeKey key)
    else if member.all Json.isNull then .fail (.noObject key)
    else .ok member
  | some (.call call) =>
    if !call.operator.toleratesAbsent && !member.any Json.isArray then
      .fail (.noSequence key call.raw)
    else .ok member
  | none => .ok member

def stepKey (parent : Option Json) (key : String) (next : Option Segment) :
    Attempt (Option Json) :=
  match parent with
  | none | some .null => .fail (.noObject key)
  | some (.arr _) => .fail (.keyOfSequence key)
  | some parent => checkMember key next (parent.member? key)

variable [Regex.Engine]

def stepCall (ctx : Context) (call : Call) (base : Option Json) : Attempt Json :=
  if !call.operator.toleratesAbsent && !base.any Json.isArray then
    .fail (.notSequence call.raw)
  else Operators.apply ctx call base

/-- Walks from a value that may be absent. -/
def walkFrom (ctx : Context) (current : Option Json) : List Segment → Attempt Json
  | [] => Attempt.ofOption .noResult current
  | .key name :: rest => do
    let value ← stepKey current name rest.head?
    ctx.walkFrom value rest
  | .call call :: rest => do
    let value ← ctx.stepCall call current
    ctx.walkFrom (some value) rest

def walk (ctx : Context) (start : Json) (segments : List Segment) : Attempt Json :=
  ctx.walkFrom (some start) segments

/-- The value of a path in the document. A path without calls is a structural lookup. -/
def evaluatePath (ctx : Context) (path : String) : Attempt Json := do
  let segments ← Attempt.ofExcept (parseSegments path)
  if segments.any Segment.isCall then ctx.walk ctx.root segments
  else
    Attempt.ofOption (.noObjectPath path) (ctx.root.lookup? (segments.filterMap Segment.key?))

end Context

end DotQuery

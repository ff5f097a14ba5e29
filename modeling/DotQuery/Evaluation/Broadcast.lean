import DotQuery.Evaluation.Walk

/-!
Applying a path to each element of a sequence. Leading keys are followed up to the first sequence;
the segments behind them are walked from a sequence of one element, for each element in turn.
-/

namespace DotQuery

open Query

namespace Context

/-- Where leading keys have led: the value, how many keys it took, and the segments behind them. -/
structure Lead where
  value : Json
  taken : Nat
  rest : List Segment

/-- Follows keys until a sequence, a call or the end of the path is reached. -/
def lead (value : Json) (taken : Nat) : List Segment → Attempt Lead
  | .key name :: rest =>
    if value.isArray then .ok ⟨value, taken, .key name :: rest⟩
    else match value.member? name with
      | some member => lead member (taken + 1) rest
      | none => .fail (.noObject name)
  | segments => .ok ⟨value, taken, segments⟩

/-- The text before the dot with number `index`, counted from zero; all of it if there are fewer. -/
def beforeDot (index : Nat) : List Char → List Char
  | [] => []
  | c :: rest =>
    if c = '.' then
      match index with
      | 0 => []
      | index + 1 => c :: beforeDot index rest
    else c :: beforeDot index rest

/-- The part of a path that was expected to lead to a sequence, after `taken` keys. -/
def leadText (body : String) (taken : Nat) : String :=
  match taken with
  | 0 => body
  | taken + 1 => String.ofList (beforeDot taken body.toList)

variable [Regex.Engine]

/-- The answer for one element. -/
def broadcastItem (ctx : Context) (rest : List Segment) (item : Json) : Attempt Json :=
  if rest.isEmpty then .ok item else ctx.walk (.arr [item]) rest

def broadcast (ctx : Context) (body : String) : Attempt Json := do
  let segments ← Attempt.ofExcept (parseSegments body)
  let found ← lead ctx.root 0 segments
  match found.value with
  | .arr items => return .arr (← items.mapM (ctx.broadcastItem found.rest))
  | _ => .fail (.broadcastNeedsSequence (leadText body found.taken))

end Context

end DotQuery

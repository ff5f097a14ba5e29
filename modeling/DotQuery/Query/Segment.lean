import DotQuery.Query.Cause
import DotQuery.Query.Splitting
import DotQuery.Text.Blank
import DotQuery.Text.Cut

/-!
The segments of a path: keys, and calls of operators with the text between their brackets. A path
splits at the dots outside brackets, the list of a combinator at its commas.
-/

namespace DotQuery.Query

/-- An operator with its argument as it is written, and the whole segment `raw`. -/
structure Call where
  operator : Operator
  argument : String
  raw : String
deriving DecidableEq

namespace Call

/-- The argument without white space at its ends. -/
def trimmedArgument (call : Call) : String :=
  Text.trimmed call.argument

end Call

inductive Segment where
  | key (name : String)
  | call (call : Call)
deriving DecidableEq

namespace Segment

def isCall : Segment → Bool
  | .call _ => true
  | .key _ => false

def key? : Segment → Option String
  | .key name => some name
  | .call _ => none

/-- The segment as it is written in a query. -/
def text : Segment → String
  | .key name => name
  | .call c => c.raw

end Segment

def splitOrFail (separator : Char) (text : String) : Except Cause (List (List Char)) :=
  match split separator text.toList with
  | .ok pieces => .ok pieces
  | .error rest => .error (.unbalanced (String.ofList rest))

/-- A segment with a bracket is a call: a name, and an argument up to a bracket at the very end. -/
def parseSegment (text : List Char) : Except Cause Segment :=
  let raw := String.ofList text
  match Text.cut? ['('] text with
  | none => .ok (.key raw)
  | some (name, rest) =>
    match Operator.ofName? (String.ofList name) with
    | none => .error (.unknownOperator raw)
    | some operator =>
      match Text.dropTrailing? [')'] rest with
      | none => .error (.malformedArguments raw)
      | some argument =>
        if Text.isAllBlank argument && !operator.argumentOptional then .error (.noArgument raw)
        else .ok (.call ⟨operator, String.ofList argument, raw⟩)

def parseSegments (text : String) : Except Cause (List Segment) := do
  let pieces ← splitOrFail '.' text
  pieces.mapM parseSegment

/-- The items of a list without white space at their ends; blank ones are passed over. -/
def parseItems (body : String) : Except Cause (List String) := do
  let pieces ← splitOrFail ',' body
  return ((pieces.map Text.trim).filter fun item => !item.isEmpty).map String.ofList

end DotQuery.Query

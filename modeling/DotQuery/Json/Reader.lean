import DotQuery.Json.Token

/-!
Reading JSON text. A document is one value and nothing else, with at most 127 arrays and objects
inside one another. A key that an object repeats keeps its first place and its last value.
-/

namespace DotQuery

namespace Json

def maxDepth : Nat := 127

mutual

/-- The value that a token list starts with, and what follows it. -/
def takeValue? (depth : Nat) : Nat → List Token → Option (Json × List Token)
  | 0, _ => none
  | fuel + 1, tokens =>
    match tokens with
    | .scalar value :: rest => some (value, rest)
    | .openArray :: .closeArray :: rest => if depth = 0 then none else some (.arr [], rest)
    | .openObject :: .closeObject :: rest => if depth = 0 then none else some (.obj [], rest)
    | .openArray :: rest =>
      if depth = 0 then none
      else do
        let (items, rest) ← takeItems? (depth - 1) fuel rest
        return (.arr items, rest)
    | .openObject :: rest =>
      if depth = 0 then none
      else do
        let (members, rest) ← takeMembers? (depth - 1) fuel rest
        return (.obj members, rest)
    | _ => none

/-- Items up to the bracket that closes their array. -/
def takeItems? (depth : Nat) : Nat → List Token → Option (List Json × List Token)
  | 0, _ => none
  | fuel + 1, tokens => do
    let (item, rest) ← takeValue? depth fuel tokens
    match rest with
    | .closeArray :: rest => return ([item], rest)
    | .comma :: rest =>
      let (items, rest) ← takeItems? depth fuel rest
      return (item :: items, rest)
    | _ => none

/-- Members up to the brace that closes their object. -/
def takeMembers? (depth : Nat) : Nat → List Token → Option (List (String × Json) × List Token)
  | 0, _ => none
  | fuel + 1, tokens =>
    match tokens with
    | .scalar (.str key) :: .colon :: rest => do
      let (value, rest) ← takeValue? depth fuel rest
      match rest with
      | .closeObject :: rest => return ([(key, value)], rest)
      | .comma :: rest =>
        let (members, rest) ← takeMembers? depth fuel rest
        return ((key, value) :: members, rest)
      | _ => none
    | _ => none

end

mutual

/-- The value with the repeated keys of every object merged. -/
def merged : Json → Json
  | .arr items => .arr (mergedItems items)
  | .obj members => .obj (mergedMembers [] members)
  | value => value

def mergedItems : List Json → List Json
  | [] => []
  | item :: rest => merged item :: mergedItems rest

def mergedMembers (done : List (String × Json)) : List (String × Json) → List (String × Json)
  | [] => done
  | (key, value) :: rest => mergedMembers (insertMember key (merged value) done) rest

end

/-- The value of a text. -/
def read? (text : String) : Option Json := do
  let tokens ← tokens? text.toList
  match takeValue? maxDepth (2 * tokens.length + 1) tokens with
  | some (value, []) => some (merged value)
  | _ => none

end Json

end DotQuery

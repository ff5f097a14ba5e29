import DotQuery.Json.Token

/-!
Values of JSON text that are told apart but not read. A value is the run of its tokens, of any
depth, with its brackets in order. What it stands for may be asked for afterwards, or never.
-/

namespace DotQuery

namespace Json

/-- The tokens of one value. -/
abbrev Unread := List Token

namespace Unread

inductive Bracket where
  | array
  | object
deriving DecidableEq

/-- What must come next inside a value. -/
inductive Expected where
  | value
  | valueOrEnd
  | key
  | keyOrEnd
  | colon
  /-- A comma, or the end of the innermost array or object. -/
  | more
deriving DecidableEq

/-- Whether an array or object may end there. -/
def Expected.mayEnd (expected : Expected) (bracket : Bracket) : Bool :=
  expected = .more || expected = (match bracket with | .array => .valueOrEnd | .object => .keyOrEnd)

/-- What must come behind a comma. -/
def Expected.behindComma : Bracket → Expected
  | .array => .value
  | .object => .key

def isText : Token → Bool
  | .scalar (.str _) | .brokenText => true
  | _ => false

def isScalar : Token → Bool
  | .scalar _ | .brokenText | .boundlessNumber => true
  | _ => false

/-- What is expected and which brackets are open behind a token, if it may stand there. -/
def step? (expected : Expected) (outer : List Bracket) (token : Token) :
    Option (Expected × List Bracket) :=
  let isValue := expected = .value || expected = .valueOrEnd
  let isKey := expected = .key || expected = .keyOrEnd
  match token, outer with
  | .openArray, _ => if isValue then some (.valueOrEnd, .array :: outer) else none
  | .openObject, _ => if isValue then some (.keyOrEnd, .object :: outer) else none
  | .closeArray, .array :: outer => if expected.mayEnd .array then some (.more, outer) else none
  | .closeObject, .object :: outer => if expected.mayEnd .object then some (.more, outer) else none
  | .comma, bracket :: _ => if expected = .more then some (.behindComma bracket, outer) else none
  | .colon, _ => if expected = .colon then some (.value, outer) else none
  | token, _ =>
    if isValue && isScalar token then some (.more, outer)
    else if isKey && isText token then some (.colon, outer)
    else none

/-- The rest of a value behind the tokens in `done`, which stand in reverse order, and what follows
it. -/
def takeRest? (expected : Expected) (outer : List Bracket) (done : List Token) :
    List Token → Option (Unread × List Token)
  | [] => none
  | token :: rest => do
    let (expected, outer) ← step? expected outer token
    let done := token :: done
    if outer.isEmpty then return (done.reverse, rest) else takeRest? expected outer done rest

/-- The value that a token list starts with, and what follows it. -/
def take? (tokens : List Token) : Option (Unread × List Token) :=
  takeRest? .value [] [] tokens

/-- The only value of a text. -/
def ofText? (text : String) : Option Unread := do
  match take? (← tokens? text.toList) with
  | some (value, []) => some value
  | _ => none

/-! ### Parts of a value -/

/-- Items up to the end of their array; `fuel` bounds their number. -/
def takeItems? : Nat → List Token → Option (List Unread)
  | 0, _ => none
  | fuel + 1, tokens => do
    let (item, rest) ← take? tokens
    match rest with
    | .comma :: rest => return item :: (← takeItems? fuel rest)
    | _ => return [item]

/-- The items of an array. -/
def items? : Unread → Option (List Unread)
  | [.openArray, .closeArray] => some []
  | .openArray :: rest => takeItems? rest.length rest
  | _ => none

/-- Members up to the end of their object, whose keys stand for texts; `fuel` bounds their number.
-/
def takeMembers? : Nat → List Token → Option (List (String × Unread))
  | 0, _ => none
  | fuel + 1, tokens =>
    match tokens with
    | .scalar (.str key) :: .colon :: rest => do
      let (value, rest) ← take? rest
      match rest with
      | .comma :: rest => return (key, value) :: (← takeMembers? fuel rest)
      | _ => return [(key, value)]
    | _ => none

/-- The members of an object. -/
def members? : Unread → Option (List (String × Unread))
  | [.openObject, .closeObject] => some []
  | .openObject :: rest => takeMembers? rest.length rest
  | _ => none

def scalar? : Unread → Option Json
  | [.scalar value] => some value
  | _ => none

def string? (value : Unread) : Option String :=
  match value.scalar? with
  | some (.str text) => some text
  | _ => none

def isNull (value : Unread) : Bool :=
  value.scalar?.any Json.isNull

/-- The member at a key that occurs at most once; `some none` if it does not occur. -/
def uniqueMember? (key : String) (members : List (String × Unread)) : Option (Option Unread) :=
  match members.filter fun member => member.1 == key with
  | [] => some none
  | [member] => some (some member.2)
  | _ => none

end Unread

end Json

end DotQuery

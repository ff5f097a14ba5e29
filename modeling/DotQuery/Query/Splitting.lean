/-!
Splitting texts at a separator that stands outside all brackets. Round and square brackets must nest
properly; what stands inside them is opaque. A text is split up to the first bracket that opens no
complete group, and the rest from that bracket on is left over.
-/

namespace DotQuery.Query

def isBracket (c : Char) : Bool :=
  c == '(' || c == ')' || c == '[' || c == ']'

/-- The bracket that closes a group opened by `c`. -/
def closer? : Char → Option Char
  | '(' => some ')'
  | '[' => some ']'
  | _ => none

/-- The closing brackets that are awaited, innermost first, after `c`; none if `c` closes another
group than the innermost one. -/
def await? (awaited : List Char) (c : Char) : Option (List Char) :=
  match closer? c with
  | some closer => some (closer :: awaited)
  | none =>
    if isBracket c then
      match awaited with
      | closer :: outer => if c = closer then some outer else none
      | [] => none
    else some awaited

/-- Whether `text` goes on to close every group whose closing bracket is awaited. -/
def closesAll : List Char → List Char → Bool
  | [], _ => true
  | _ :: _, [] => false
  | closer :: outer, c :: rest =>
    match await? (closer :: outer) c with
    | some awaited => closesAll awaited rest
    | none => false

/-- Whether `text` starts with a complete group. -/
def startsGroup : List Char → Bool
  | c :: rest =>
    match closer? c with
    | some closer => closesAll [closer] rest
    | none => false
  | [] => false

/-- Whether the brackets of `text` nest properly and are closed. -/
def closesExactly : List Char → List Char → Bool
  | awaited, [] => awaited.isEmpty
  | awaited, c :: rest =>
    match await? awaited c with
    | some awaited => closesExactly awaited rest
    | none => false

def isBalanced (text : List Char) : Bool :=
  closesExactly [] text

/-- A text in pieces, and what of it is left over. -/
structure Pieces where
  first : List Char
  others : List (List Char)
  rest : List Char
deriving DecidableEq

namespace Pieces

def push (c : Char) (pieces : Pieces) : Pieces :=
  { pieces with first := c :: pieces.first }

/-- Starts a new piece in front. -/
def separate (pieces : Pieces) : Pieces :=
  { pieces with first := [], others := pieces.first :: pieces.others }

def toList (pieces : Pieces) : List (List Char) :=
  pieces.first :: pieces.others

end Pieces

/-- The pieces of a text, given the closing brackets that are awaited at its start. -/
def splitWithin (separator : Char) : List Char → List Char → Pieces
  | _, [] => ⟨[], [], []⟩
  | [], c :: rest =>
    if c = separator then (splitWithin separator [] rest).separate
    else
      match closer? c with
      | some closer =>
        if closesAll [closer] rest then (splitWithin separator [closer] rest).push c
        else ⟨[], [], c :: rest⟩
      | none =>
        if isBracket c then ⟨[], [], c :: rest⟩ else (splitWithin separator [] rest).push c
  | closer :: outer, c :: rest =>
    (splitWithin separator ((await? (closer :: outer) c).getD []) rest).push c

/-- The pieces of `text`, or the rest that is left over. -/
def split (separator : Char) (text : List Char) : Except (List Char) (List (List Char)) :=
  let pieces := splitWithin separator [] text
  if pieces.rest.isEmpty then .ok pieces.toList else .error pieces.rest

end DotQuery.Query

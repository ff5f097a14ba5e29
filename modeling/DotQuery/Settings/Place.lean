import DotQuery.Settings.Basic
import DotQuery.Text.Natural

/-!
Places in settings. At the top of a settings file, a key such as `a.b[0]` names a place inside the
tree, where what stands there before is merged with the value of the key. A negative index counts
from the end.
-/

namespace DotQuery

namespace Setting

inductive Step where
  | member (key : String)
  | item (index : Int)
deriving DecidableEq

/-! ### Places as they are written -/

def isNameLetter (c : Char) : Bool :=
  c.isAlphanum || c == '_' || c == '-'

def takeName? (text : List Char) : Option (Step × List Char) :=
  match text.takeWhile isNameLetter with
  | [] => none
  | name => some (.member (String.ofList name), text.dropWhile isNameLetter)

def isSpace (c : Char) : Bool :=
  c == ' ' || c == '\t'

/-- An index up to the bracket that closes it. -/
def takeIndex? (text : List Char) : Option (Step × List Char) := do
  let text := text.dropWhile isSpace
  let (negative, text) := match text with
    | '-' :: rest => (true, rest)
    | _ => (false, text)
  let digits := text.takeWhile Char.isDigit
  if digits.isEmpty then none
  let magnitude : Int := Text.digitsValue digits
  let index := if negative then -magnitude else magnitude
  match (text.drop digits.length).dropWhile isSpace with
  | ']' :: rest => if isSigned64 index then return (.item index, rest) else none
  | _ => none

/-- The steps behind the first; `fuel` bounds their number. -/
def takeSteps? : Nat → List Char → Option (List Step)
  | 0, _ => none
  | _, [] => some []
  | fuel + 1, c :: rest => do
    let (step, rest) ←
      if c == '.' then takeName? rest else if c == '[' then takeIndex? rest else none
    return step :: (← takeSteps? fuel rest)

def parseSteps? (text : List Char) : Option (List Step) := do
  let (first, rest) ← takeName? text
  return first :: (← takeSteps? (rest.length + 1) rest)

/-- The place that a key names; one that is not written as a place names itself. -/
def stepsOf (key : String) : List Step :=
  (parseSteps? key.toList).getD [.member key]

/-! ### Merging -/

mutual

/-- What `old` becomes when a value is put over it: tables are merged, and anything else gives
way. -/
def overlay : Setting → Setting → Setting
  | .table members, old => .table (overlayMembers members old.members)
  | value, _ => value

def overlayMembers :
    List (String × Setting) → List (String × Setting) → List (String × Setting)
  | [], done => done
  | (key, value) :: rest, done => overlayMembers rest (changeMember key (overlay value) done)

end

/-- The items with enough missing ones added that there is one at `index`, and its position. -/
def reachItem (index : Int) (items : List Setting) : List Setting × Nat :=
  let position := if index < 0 then index + items.length else index
  if position < 0 then (List.replicate position.natAbs .missing ++ items, 0)
  else (items ++ List.replicate (position.toNat + 1 - items.length) .missing, position.toNat)

/-- Puts a value at a place, around which lists and tables are made where there are none. -/
def put (value : Setting) : List Step → Setting → Setting
  | [], old => overlay value old
  | .member key :: rest, old => .table (changeMember key (put value rest) old.members)
  | .item index :: rest, old =>
    let (items, position) := reachItem index old.items
    .list (items.modify position (put value rest))

/-- The tree whose parts are at the places that keys name. -/
def gather (members : List (String × Setting)) : Setting :=
  members.foldl (fun root member => put member.2 (stepsOf member.1) root) (.table [])

end Setting

end DotQuery

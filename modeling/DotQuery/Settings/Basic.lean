import DotQuery.Decimal.Layout

/-!
Settings as the trees that settings files give, whatever the format of the file. A number or boolean
is kept as its text, and told apart from a text.
-/

namespace DotQuery

inductive Setting where
  | missing
  | scalar (isText : Bool) (text : String)
  | list (items : List Setting)
  | table (members : List (String × Setting))
deriving Inhabited

namespace Setting

/-- Numbers in settings are written positionally, without a fraction if they are whole. -/
def numberLayout : Decimal.Layout where
  tie := .away
  lowest := none
  highest := none
  wholeMark := []
  plusSign := false

def ofInt (n : Int) : Setting :=
  .scalar false (String.ofList (Decimal.signChars (n < 0) ++ Decimal.digitChars n.natAbs))

def ofFloat (a : Binary64) : Setting :=
  .scalar false (String.ofList (a.write numberLayout))

def ofBool (value : Bool) : Setting :=
  .scalar false (if value then "true" else "false")

/-- Integers of signed 64-bit words. -/
def isSigned64 (n : Int) : Bool :=
  -0x8000000000000000 ≤ n && n < 0x8000000000000000

/-- The text of a scalar, which any kind of scalar has. -/
def text? : Setting → Option String
  | .scalar _ text => some text
  | _ => none

/-- The items of a list; anything else has none. -/
def items : Setting → List Setting
  | .list items => items
  | _ => []

/-- The members of a table; anything else has none. -/
def members : Setting → List (String × Setting)
  | .table members => members
  | _ => []

def member? (key : String) (setting : Setting) : Option Setting :=
  setting.members.lookup key

/-- Changes the member at a key, which is missing before if there is none. -/
def changeMember (key : String) (change : Setting → Setting) :
    List (String × Setting) → List (String × Setting)
  | [] => [(key, change .missing)]
  | (k, value) :: rest =>
    if k = key then (k, change value) :: rest else (k, value) :: changeMember key change rest

/-- Puts a member at the end, or in the place of the one with its key. -/
def insertMember (key : String) (value : Setting) :
    List (String × Setting) → List (String × Setting) :=
  changeMember key fun _ => value

end Setting

end DotQuery

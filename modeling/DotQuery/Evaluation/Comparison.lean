import DotQuery.Decimal.Numeral
import DotQuery.Json.Basic
import DotQuery.Query.Equator

/-!
How a field compares with the operand of a filter: numbers by value, strings by code points,
booleans by their names for equality and as one and zero for order. A blank operand is the number
zero.
-/

namespace DotQuery

namespace Comparison

open Query

def operandNumber? (operand : String) : Option Binary64 :=
  let text := Text.trim operand.toList
  if text.isEmpty then some .positiveZero else (parseNumber? text).map .finite

def compareText (a b : String) : Ordering :=
  compare a b

def boolName (value : Bool) : String :=
  if value then "true" else "false"

def boolNumber (value : Bool) : Binary64 :=
  .ofInt (if value then 1 else 0)

def isEquality : Comparator → Bool
  | .eq | .ne => true
  | _ => false

/-- The order of a field and the operand, if they compare at all. -/
def order? (equator : Equator) (field : Option Json) : Option Ordering :=
  match field with
  | some (.num n) => (operandNumber? equator.operand).bind n.toBinary64.compare?
  | some (.str text) => some (compareText text equator.operand)
  | some (.bool value) =>
    if isEquality equator.comparator then some (compareText (boolName value) equator.operand)
    else (operandNumber? equator.operand).bind (boolNumber value).compare?
  | _ => none

/-- Whether a filter keeps an item. -/
def keeps (equator : Equator) (item : Json) : Bool :=
  equator.comparator.accepts (order? equator (item.member? equator.key))

end Comparison

end DotQuery

import DotQuery.Json.Basic
import DotQuery.Text.Cut
import DotQuery.Text.Natural

/-!
Structural lookup: following keys from a value into the members of objects and the items of arrays.
An item is named by its index from zero.
-/

namespace DotQuery

namespace Json

/-- The value one key further: a member of an object, or an item of an array by its index. -/
def child? (value : Json) (key : String) : Option Json :=
  match value with
  | .obj members => members.lookup key
  | .arr items => (Text.natural? key.toList).bind fun index => items[index]?
  | _ => none

/-- The value that is reached by following `keys` one by one. -/
def lookup? (value : Json) : List String → Option Json
  | [] => some value
  | key :: rest => (value.child? key).bind fun child => child.lookup? rest

/-- The value at a path whose keys are separated by dots. -/
def lookupPath? (value : Json) (path : String) : Option Json :=
  value.lookup? ((Text.fields '.' path.toList).map String.ofList)

end Json

end DotQuery

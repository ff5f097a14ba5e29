import DotQuery.Json.Reader
import DotQuery.Settings.Basic

/-!
The settings of a JSON text.
-/

namespace DotQuery

namespace Setting

mutual

def ofJson : Json → Setting
  | .null => .missing
  | .bool value => ofBool value
  | .num (.int n _) => ofInt n
  | .num (.float x) => ofFloat (.finite x)
  | .str text => .scalar true text
  | .arr items => .list (ofJsonItems items)
  | .obj members => .table (ofJsonMembers members)

def ofJsonItems : List Json → List Setting
  | [] => []
  | item :: rest => ofJson item :: ofJsonItems rest

def ofJsonMembers : List (String × Json) → List (String × Setting)
  | [] => []
  | (key, value) :: rest => (key, ofJson value) :: ofJsonMembers rest

end

def readJson? (text : String) : Option Setting :=
  (Json.read? text).map ofJson

end Setting

end DotQuery

import DotQuery.Rules.Basic
import DotQuery.Settings.Place
import DotQuery.Settings.Yaml

/-!
Rules as settings give them. Settings are read loosely: wherever a text is asked for, a number or
boolean gives its own text. Keys that are not known are passed over.
-/

namespace DotQuery

namespace FailurePolicy

/-- A policy by its name, which may also be the only key of a table. -/
def ofSetting? : Setting → Option FailurePolicy
  | .scalar true name => ofName? name
  | .table [(name, _)] => ofName? name
  | _ => none

end FailurePolicy

namespace Rule

def ofSettings? (name query : Setting) (onFailure : Option Setting) : Option Rule := do
  let name ← name.text?
  let query ← query.text?
  let onFailure ← match onFailure with
    | some value => FailurePolicy.ofSetting? value
    | none => some .fail
  return ⟨name, query, onFailure⟩

/-- A rule by its keys, or from a list by their places. -/
def ofSetting? : Setting → Option Rule
  | .list (name :: query :: rest) => ofSettings? name query rest.head?
  | setting => do
    ofSettings? (← setting.member? "name") (← setting.member? "query") (setting.member? "on_error")

end Rule

namespace RulesConfig

/-- The rules in a tree of settings. -/
def ofSetting? (setting : Setting) : Option RulesConfig := do
  let now ← match setting.member? "now" with
    | none | some .missing => some none
    | some value => value.text?.map some
  let rules ← match ← setting.member? "fields" with
    | .list items => items.mapM Rule.ofSetting?
    | _ => none
  return ⟨now, rules⟩

/-- The rules that the settings of a file give, whose keys name places. -/
def ofFile? : Setting → Option RulesConfig
  | .table members => ofSetting? (.gather members)
  | _ => none

/-- The rules that a YAML text gives. -/
def readYaml? (text : String) : Option RulesConfig :=
  (Setting.readYaml? text).bind ofFile?

end RulesConfig

end DotQuery

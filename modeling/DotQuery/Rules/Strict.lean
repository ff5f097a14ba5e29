import DotQuery.Json.Unread
import DotQuery.Rules.Basic

/-!
Rules written as JSON. Every field must have its own type; keys that are not known are passed over
with what stands under them, known ones must not be repeated. An array gives the fields by their
places.
-/

namespace DotQuery

open Json (Unread)

namespace FailurePolicy

/-- A policy by its name, or as an object that maps its name to null. -/
def ofUnread? (value : Unread) : Option FailurePolicy :=
  match value.members? with
  | some [(name, value)] => if value.isNull then ofName? name else none
  | _ => value.string?.bind ofName?

end FailurePolicy

namespace Rule

def ofFields? (name query : Unread) (onFailure : Option Unread) : Option Rule := do
  let name ← name.string?
  let query ← query.string?
  let onFailure ← match onFailure with
    | some value => FailurePolicy.ofUnread? value
    | none => some .fail
  return ⟨name, query, onFailure⟩

def ofMembers? (members : List (String × Unread)) : Option Rule := do
  let name ← (← Unread.uniqueMember? "name" members)
  let query ← (← Unread.uniqueMember? "query" members)
  ofFields? name query (← Unread.uniqueMember? "on_error" members)

def ofItems? : List Unread → Option Rule
  | [name, query] => ofFields? name query none
  | [name, query, onFailure] => ofFields? name query (some onFailure)
  | _ => none

def ofUnread? (value : Unread) : Option Rule :=
  (value.members?.bind ofMembers?) <|> (value.items?.bind ofItems?)

end Rule

namespace RulesConfig

def ofFields? (now : Option Unread) (fields : Unread) : Option RulesConfig := do
  let now ← match now with
    | some value => if value.isNull then some none else value.string?.map some
    | none => some none
  let rules ← (← fields.items?).mapM Rule.ofUnread?
  return ⟨now, rules⟩

def ofMembers? (members : List (String × Unread)) : Option RulesConfig := do
  let now ← Unread.uniqueMember? "now" members
  let fields ← (← Unread.uniqueMember? "fields" members)
  ofFields? now fields

def ofItems? : List Unread → Option RulesConfig
  | [now, fields] => ofFields? (some now) fields
  | _ => none

def ofUnread? (value : Unread) : Option RulesConfig :=
  (value.members?.bind ofMembers?) <|> (value.items?.bind ofItems?)

/-- The rules that a JSON text gives. -/
def readJson? (text : String) : Option RulesConfig :=
  (Unread.ofText? text).bind ofUnread?

end RulesConfig

end DotQuery

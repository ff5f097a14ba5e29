import DotQuery.Settings.Basic

/-!
The tables of a TOML text while it is read. Every table remembers how it came to be, because that
decides what may still be added to it: a table is written once, but may be named before, in the
names of others.
-/

namespace DotQuery.Toml

inductive TableOrigin where
  /-- Named only in the header of another table. -/
  | implied
  /-- Written with a header of its own. -/
  | header
  /-- Named by the key of a pair that has several parts. -/
  | dotted
deriving DecidableEq

inductive Node where
  | value (setting : Setting)
  | table (origin : TableOrigin) (members : List (String × Node))
  /-- Tables that are written one by one under a common header, the last one first. -/
  | tables (elements : List (List (String × Node)))

namespace Node

abbrev Members := List (String × Node)

/-- Changes or adds the member at a key. -/
def changeMember? (key : String) (change : Option Node → Option Node) :
    Members → Option Members
  | [] => do return [(key, ← change none)]
  | (k, node) :: rest =>
    if k = key then do return (k, ← change (some node)) :: rest
    else do return (k, node) :: (← changeMember? key change rest)

/-- Changes the members of the table that the keys lead to from a table of the given origin. A
header may lead through any table, a pair only through those that have no header. -/
def changeTable? (isPair : Bool) (change : TableOrigin → Members → Option Members) :
    List String → TableOrigin → Members → Option Members
  | [], origin, members => change origin members
  | key :: rest, _, members =>
    let added := if isPair then TableOrigin.dotted else .implied
    changeMember? key (fun
      | none => do return .table added (← changeTable? isPair change rest added [])
      | some (.value _) => none
      | some (.table origin inner) =>
        if isPair && origin = .header then none
        else do return .table origin (← changeTable? isPair change rest origin inner)
      | some (.tables (last :: others)) => do
        return .tables ((← changeTable? isPair change rest .header last) :: others)
      | some (.tables []) => none) members

/-- Adds the value of a pair to the table that it stands in. -/
def insertPair? (path : List String) (key : String) (setting : Setting) (members : Members) :
    Option Members :=
  let insert (origin : TableOrigin) (members : Members) : Option Members :=
    if path.isEmpty = decide (origin = .dotted) then none
    else changeMember? key (fun old => if old.isSome then none else some (.value setting)) members
  changeTable? true insert path .header members

/-- Starts the table of a header. -/
def startTable? (path : List String) (key : String) (members : Members) : Option Members :=
  let start (node : Option Node) : Option Node :=
    match node with
    | none => some (.table .header [])
    | some (.table .implied inner) => some (.table .header inner)
    | some _ => none
  changeTable? false (fun _ => changeMember? key start) path .header members

/-- Starts another table under a common header. -/
def startElement? (path : List String) (key : String) (members : Members) : Option Members :=
  let start (node : Option Node) : Option Node :=
    match node with
    | none => some (.tables [[]])
    | some (.tables elements) => some (.tables ([] :: elements))
    | some _ => none
  changeTable? false (fun _ => changeMember? key start) path .header members

mutual

def toSetting : Node → Setting
  | .value setting => setting
  | .table _ members => .table (membersToSettings members)
  | .tables elements => .list (elementsToSettings elements).reverse

def membersToSettings : List (String × Node) → List (String × Setting)
  | [] => []
  | (key, node) :: rest => (key, toSetting node) :: membersToSettings rest

def elementsToSettings : List (List (String × Node)) → List Setting
  | [] => []
  | members :: rest => .table (membersToSettings members) :: elementsToSettings rest

end

end Node

end DotQuery.Toml

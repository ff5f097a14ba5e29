import DotQuery.Calendar.Reading
import DotQuery.Evaluation.Evaluate
import DotQuery.Query.Validation

/-!
Rule sets: named queries that are answered together for one document. A rule says what becomes of
the answer when its query fails. A rule set is compiled once, which checks that its names differ and
that its queries are well formed. With it comes the time that ages are measured to when a query
names no reference date, given as a timestamp.
-/

namespace DotQuery

open Query

/-- What is done when the query of a rule fails: the document fails, the field is null, or it is
left out. -/
inductive FailurePolicy where
  | fail
  | null
  | skip
deriving DecidableEq

namespace FailurePolicy

def ofName? : String → Option FailurePolicy
  | "fail" => some fail
  | "null" => some null
  | "skip" => some skip
  | _ => none

end FailurePolicy

structure Rule where
  name : String
  query : String
  onFailure : FailurePolicy
deriving DecidableEq

structure RulesConfig where
  now : Option String
  rules : List Rule
deriving DecidableEq

structure InvalidReferenceTime where
  text : String
deriving DecidableEq

namespace InvalidReferenceTime

def message (e : InvalidReferenceTime) : String :=
  "Config: invalid reference time " ++ e.text

end InvalidReferenceTime

/-- The moment that a reference time is written for. -/
def readReferenceTime (text : String) : Except InvalidReferenceTime Calendar.Moment :=
  match Calendar.Moment.ofTimestamp? text with
  | some moment => .ok moment
  | none => .error ⟨text⟩

/-- Why a list of rules is refused; positions count from one. -/
inductive RuleError where
  | duplicateName (name : String)
  | invalidQuery (position : Nat) (name : String) (error : QueryError)
deriving DecidableEq

namespace RuleError

def message : RuleError → String
  | duplicateName name => "Rules: duplicate field name '" ++ name ++ "'"
  | invalidQuery position name error =>
    "Error parsing rule " ++ toString position ++ " ('" ++ name ++ "'): " ++ error.message

end RuleError

/-- The rule whose query failed, and why. -/
structure FieldError where
  name : String
  error : QueryError
deriving DecidableEq

namespace FieldError

def chain (e : FieldError) : List String :=
  ["Rules: field '" ++ e.name ++ "' failed", e.error.message]

end FieldError

namespace Rule

/-- A rule that is named by its query and whose failure fails the document. -/
def ofQuery (query : String) : Rule :=
  ⟨query, query, .fail⟩

/-- Checks rules from `position` on, after rules with the names `seen`. -/
def check (position : Nat) (seen : List String) : List Rule → Except RuleError Unit
  | [] => .ok ()
  | rule :: rest =>
    if seen.contains rule.name then .error (.duplicateName rule.name)
    else match validate rule.query with
      | .error e => .error (.invalidQuery position rule.name e)
      | .ok () => check (position + 1) (rule.name :: seen) rest

end Rule

/-- Rules that have been checked. -/
structure RuleSet where
  rules : List Rule
deriving DecidableEq

namespace RuleSet

def compile (rules : List Rule) : Except RuleError RuleSet := do
  Rule.check 1 [] rules
  return ⟨rules⟩

variable [Regex.Engine]

/-- The members that a rule adds to those before it. -/
def addField (ctx : Context) (done : List (String × Json)) (rule : Rule) :
    Except (Failure FieldError) (List (String × Json)) :=
  match ctx.evaluate rule.query with
  | .ok value => .ok (Json.insertMember rule.name value done)
  | .error .overflow => .error .overflow
  | .error (.error e) =>
    match rule.onFailure with
    | .fail => .error (.error ⟨rule.name, e⟩)
    | .null => .ok (Json.insertMember rule.name .null done)
    | .skip => .ok done

/-- The members that all rules give for a document, in the order of the rules. -/
def evaluate (set : RuleSet) (ctx : Context) :
    Except (Failure FieldError) (List (String × Json)) :=
  set.rules.foldlM (addField ctx) []

end RuleSet

end DotQuery

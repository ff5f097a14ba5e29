import DotQuery.Calendar.Reading
import DotQuery.Query.Cause

/-!
Results of evaluation. An attempt gives a value, fails for a cause, or is given up because a written
date leaves the calendar; giving up is no failure of a query and no rule can absorb it.
-/

namespace DotQuery

inductive Failure (ε : Type) where
  | error (e : ε)
  | overflow
deriving DecidableEq

namespace Failure

def map {ε δ : Type} (f : ε → δ) : Failure ε → Failure δ
  | error e => error (f e)
  | overflow => overflow

end Failure

abbrev Attempt (α : Type) := Except (Failure Query.Cause) α

namespace Attempt

def fail {α : Type} (cause : Query.Cause) : Attempt α :=
  .error (.error cause)

def ofExcept {α : Type} : Except Query.Cause α → Attempt α
  | .ok a => .ok a
  | .error cause => fail cause

/-- The value, or failure for `cause` without one. -/
def ofOption {α : Type} (cause : Query.Cause) : Option α → Attempt α
  | some a => .ok a
  | none => fail cause

/-- The result of the query `query`, whose failure names it. -/
def inQuery {α : Type} (query : String) (attempt : Attempt α) :
    Except (Failure Query.QueryError) α :=
  attempt.mapError (Failure.map fun cause => ⟨cause, query⟩)

end Attempt

end DotQuery

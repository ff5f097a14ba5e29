import DotQuery.Evaluation.Walk

/-!
# What a walk reads besides its value

Operators are applied to the value that a walk stands at. The document behind it is only opened by
an age or a date with a reference path, so without such a call two documents cannot be told apart.
-/

namespace DotQuery

open Query

namespace Query.Call

/-- An age or a date that takes its time from the document. -/
def NamesReference (call : Call) : Prop :=
  (call.operator = .age ∨ call.operator = .date) ∧
    (Dates.reference? call.argument).isSome = true

instance (call : Call) : Decidable call.NamesReference :=
  inferInstanceAs (Decidable (_ ∧ _))

end Query.Call

namespace Context

variable {left right : Context} {call : Call}

theorem referenceMoment_eq_of_reference?_eq_none (hnow : left.now = right.now)
    (hreference : Dates.reference? call.argument = none) :
    Dates.referenceMoment left call = Dates.referenceMoment right call := by
  simp only [Dates.referenceMoment, hreference, hnow]

theorem evaluateDates_congr
    (hmoment : Dates.referenceMoment left call = Dates.referenceMoment right call)
    (base : Option Json) :
    Dates.evaluate left call base = Dates.evaluate right call base := by
  simp only [Dates.evaluate, hmoment]

variable [Regex.Engine]

/-- Operators other than the two on dates see nothing but their value. -/
theorem apply_congr
    (hmoment : call.operator = .age ∨ call.operator = .date →
      Dates.referenceMoment left call = Dates.referenceMoment right call)
    (base : Option Json) :
    Operators.apply left call base = Operators.apply right call base := by
  unfold Operators.apply
  cases hoperator : call.operator with
  | age => exact evaluateDates_congr (hmoment (Or.inl hoperator)) base
  | date => exact evaluateDates_congr (hmoment (Or.inr hoperator)) base
  | _ => rfl

theorem apply_eq_of_not_namesReference (hnow : left.now = right.now)
    (hcall : ¬call.NamesReference) (base : Option Json) :
    Operators.apply left call base = Operators.apply right call base := by
  refine apply_congr (fun hoperator => ?_) base
  apply referenceMoment_eq_of_reference?_eq_none hnow
  rw [← Option.not_isSome_iff_eq_none]
  exact fun hsome => hcall ⟨hoperator, hsome⟩

/-- Two contexts in which every call of a path does the same walk it alike. -/
theorem walkFrom_congr {segments : List Segment}
    (happly : ∀ call, .call call ∈ segments → ∀ base,
      Operators.apply left call base = Operators.apply right call base)
    (current : Option Json) :
    left.walkFrom current segments = right.walkFrom current segments := by
  induction segments generalizing current with
  | nil => rfl
  | cons segment rest ih =>
      have hrest := ih fun call hmem => happly call (List.mem_cons_of_mem _ hmem)
      cases segment with
      | key name => simp only [walkFrom, hrest]
      | call call => simp only [walkFrom, stepCall, happly call List.mem_cons_self, hrest]

theorem walk_eq_of_not_namesReference {segments : List Segment} (hnow : left.now = right.now)
    (hsegments : ∀ call, .call call ∈ segments → ¬call.NamesReference) (start : Json) :
    left.walk start segments = right.walk start segments :=
  walkFrom_congr (fun call hmem => apply_eq_of_not_namesReference hnow (hsegments call hmem))
    (some start)

end Context

end DotQuery

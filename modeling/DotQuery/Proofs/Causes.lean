import DotQuery.Proofs.Attempt
import DotQuery.Proofs.LeadingKeys
import DotQuery.Evaluation.Evaluate
import DotQuery.Query.Validation

/-!
# What an evaluation can fail for

Most causes lie in the document: a value is missing, has the wrong type or is no date. What is left
is at fault in the query itself, and each operator has at most one such cause. The causes of a walk
are those of its calls, and the causes of a query are those of its paths.
-/

namespace DotQuery

open Query

namespace Attempt

variable {α β : Type}

/-- Whatever cause the attempt fails for is one of these. -/
def FailsFor (causes : Cause → Prop) (attempt : Attempt α) : Prop :=
  ∀ cause, attempt = .error (.error cause) → causes cause

namespace FailsFor

variable {causes wider : Cause → Prop} {attempt : Attempt α}

theorem ok (a : α) : FailsFor causes (.ok a) := nofun

theorem overflow : FailsFor causes (.error .overflow : Attempt α) := nofun

theorem fail {cause : Cause} (hcause : causes cause) :
    FailsFor causes (fail cause : Attempt α) := by
  rintro _ ⟨⟩
  exact hcause

theorem mono (hattempt : FailsFor causes attempt) (hwider : ∀ cause, causes cause → wider cause) :
    FailsFor wider attempt :=
  fun cause herror => hwider cause (hattempt cause herror)

theorem bind {next : α → Attempt β} (hattempt : FailsFor causes attempt)
    (hnext : ∀ a, attempt = .ok a → FailsFor causes (next a)) :
    FailsFor causes (attempt >>= next) := by
  intro cause herror
  rcases bind_eq_error_iff.mp herror with herror | ⟨a, ha, herror⟩
  · exact hattempt cause herror
  · exact hnext a ha cause herror

theorem mapM {step : α → Attempt β} {items : List α}
    (hstep : ∀ item ∈ items, FailsFor causes (step item)) : FailsFor causes (items.mapM step) := by
  intro cause herror
  obtain ⟨before, item, after, rfl, -, hitem⟩ := exists_of_mapM_eq_error herror
  exact hstep item (by simp) cause hitem

theorem ofOption {cause : Cause} (hcause : causes cause) (option : Option α) :
    FailsFor causes (ofOption cause option) := by
  cases option with
  | none => exact fail hcause
  | some a => exact ok a

theorem ofExcept {result : Except Cause α}
    (hcauses : ∀ cause, result = .error cause → causes cause) :
    FailsFor causes (ofExcept result) := by
  cases result with
  | ok a => exact ok a
  | error cause => exact fail (hcauses cause rfl)

end FailsFor

end Attempt

open Attempt

namespace Query

/-- The cause lies in the document that is asked, and another document need not give it. -/
def Cause.LiesInData (cause : Cause) : Prop :=
  cause.kind = .path ∨ cause.kind = .date ∨ cause.kind = .type

/-- What can be wrong with the argument of a call and is only found when the call is reached. -/
inductive Call.ArgumentFault (call : Call) : Cause → Prop where
  | default (hoperator : call.operator ∈ [.min, .max, .mean])
      (hargument : parseLeadingNumber? call.trimmedArgument.toList = none) :
      call.ArgumentFault (.defaultNotNumber call.trimmedArgument call.raw)
  | equator {cause : Cause} (hoperator : call.operator = .filter)
      (hargument : parseEquator call.argument = .error cause) : call.ArgumentFault cause

/-- What applying a call can fail for. -/
def Call.Causes (call : Call) (cause : Cause) : Prop :=
  cause.LiesInData ∨ call.ArgumentFault cause

/-- What walking along segments can fail for. -/
def PathCauses (segments : List Segment) (cause : Cause) : Prop :=
  cause.LiesInData ∨ ∃ call, .call call ∈ segments ∧ call.ArgumentFault cause

section PathCauses

variable {call : Call} {segments wider : List Segment} {cause : Cause}

theorem Call.Causes.pathCauses (hcause : call.Causes cause) (hmem : .call call ∈ segments) :
    PathCauses segments cause :=
  hcause.imp_right fun hfault => ⟨call, hmem, hfault⟩

theorem PathCauses.mono (hwider : segments ⊆ wider) (hcause : PathCauses segments cause) :
    PathCauses wider cause :=
  hcause.imp_right fun ⟨call, hmem, hfault⟩ => ⟨call, hwider hmem, hfault⟩

end PathCauses

end Query

/-! ### Operators -/

section Operators

variable (ctx : Context) (call : Call) (base : Option Json)

theorem failsFor_sequence : FailsFor call.Causes (Operators.sequence call base) :=
  .ofOption (.inl (.inl rfl)) _

theorem failsFor_numbers : FailsFor call.Causes (Operators.numbers call base) :=
  (failsFor_sequence call base).bind fun _ _ => .ofOption (.inl (.inr (.inr rfl))) _

variable {call} in
theorem failsFor_numericDefault (hoperator : call.operator ∈ [.min, .max, .mean]) :
    FailsFor call.Causes (Operators.numericDefault call) := by
  unfold Operators.numericDefault
  dsimp only
  split
  · exact .ok _
  · split
    · exact .ok _
    · next hargument => exact .fail (.inr (.default hoperator hargument))

theorem failsFor_map : FailsFor call.Causes (Operators.map call base) :=
  (failsFor_sequence call base).bind fun _ _ =>
    (FailsFor.mapM fun _ _ => .ofOption (.inl (.inl rfl)) _).bind fun _ _ => .ok _

variable {call} in
theorem failsFor_filter (hoperator : call.operator = .filter) :
    FailsFor call.Causes (Operators.filter call base) :=
  (failsFor_sequence call base).bind fun _ _ =>
    (FailsFor.ofExcept fun _ herror => .inr (.equator hoperator herror)).bind fun _ _ => .ok _

variable {call} in
theorem failsFor_mean (hoperator : call.operator ∈ [.min, .max, .mean]) :
    FailsFor call.Causes (Operators.mean call base) :=
  (failsFor_numbers call base).bind fun _ _ =>
    (failsFor_numericDefault hoperator).bind fun _ _ => .ok _

variable {call} in
theorem failsFor_extremum (find : List Binary64 → Option Binary64)
    (hoperator : call.operator ∈ [.min, .max, .mean]) :
    FailsFor call.Causes (Operators.extremum find call base) := by
  refine (failsFor_numbers call base).bind fun values _ => ?_
  cases find values with
  | some value => exact .ok _
  | none => exact (failsFor_numericDefault hoperator).bind fun _ _ => .ok _

theorem failsFor_regex [Regex.Engine] : FailsFor call.Causes (Operators.regex call base) := by
  unfold Operators.regex
  split
  · split
    · exact .ok _
    · exact .fail (.inl (.inr (.inr rfl)))
  · exact .fail (.inl (.inr (.inr rfl)))

theorem failsFor_instantOf {causes : Cause → Prop} {cause : Cause} (hcause : causes cause)
    (value : Option Json) : FailsFor causes (Dates.instantOf cause value) := by
  unfold Dates.instantOf
  split
  · exact .fail hcause
  · exact .fail hcause
  · exact .ok _
  · exact .overflow

theorem failsFor_referenceMoment : FailsFor call.Causes (Dates.referenceMoment ctx call) := by
  unfold Dates.referenceMoment
  split
  · exact .ok _
  · exact (failsFor_instantOf (.inl (.inr (.inl rfl))) _).bind fun _ _ => .ok _

theorem failsFor_stamp {causes : Cause → Prop} (hcause : causes (.invalidDate call.raw))
    (unit : Calendar.DateUnit) (now : Calendar.Moment) :
    FailsFor causes (Dates.stamp call unit now base) := by
  refine (failsFor_instantOf hcause _).bind fun t _ => ?_
  split
  · exact .ok _
  · exact (FailsFor.ofOption hcause _).bind fun _ _ => .ok _

theorem failsFor_stamps {causes : Cause → Prop} (hcause : causes (.invalidDate call.raw))
    (unit : Calendar.DateUnit) (now : Calendar.Moment) :
    FailsFor causes (match base with
      | some (.arr items) => do
        return .arr (← items.mapM fun item => Dates.stamp call unit now (some item))
      | value => Dates.stamp call unit now value) := by
  split
  · exact (FailsFor.mapM fun item _ => failsFor_stamp call (some item) hcause unit now).bind
      fun _ _ => .ok _
  · exact failsFor_stamp call _ hcause unit now

theorem failsFor_dates : FailsFor call.Causes (Dates.evaluate ctx call base) := by
  refine (FailsFor.ofOption (.inl (.inr (.inl rfl))) _).bind fun unit _ => ?_
  refine (failsFor_referenceMoment ctx call).bind fun now _ => ?_
  exact failsFor_stamps call base (.inl (.inr (.inl rfl))) unit now

/-- An operator fails for its value or for its own argument. -/
theorem failsFor_apply [Regex.Engine] : FailsFor call.Causes (Operators.apply ctx call base) := by
  unfold Operators.apply
  cases hoperator : call.operator with
  | count => exact (failsFor_sequence call base).bind fun _ _ => .ok _
  | map => exact failsFor_map call base
  | filter => exact failsFor_filter base hoperator
  | sum => exact (failsFor_sequence call base).bind fun _ _ => .ok _
  | mean => exact failsFor_mean base (by simp [hoperator])
  | min => exact failsFor_extremum base _ (by simp [hoperator])
  | max => exact failsFor_extremum base _ (by simp [hoperator])
  | range => exact (failsFor_numbers call base).bind fun _ _ => .ok _
  | unique => exact (failsFor_sequence call base).bind fun _ _ => .ok _
  | «exists» => exact .ok _
  | default => exact .ok _
  | age => exact failsFor_dates ctx call base
  | date => exact failsFor_dates ctx call base
  | regex => exact failsFor_regex call base

end Operators

/-! ### Paths -/

namespace Context

variable (ctx : Context) {path : String} {segments : List Segment}

theorem failsFor_checkMember (key : String) (next : Option Segment) (member : Option Json) :
    FailsFor Cause.LiesInData (checkMember key next member) := by
  unfold checkMember
  split
  · split
    · exact .fail (.inl rfl)
    · split
      · exact .fail (.inl rfl)
      · exact .ok _
  · split
    · exact .fail (.inl rfl)
    · exact .ok _
  · exact .ok _

theorem failsFor_stepKey (parent : Option Json) (key : String) (next : Option Segment) :
    FailsFor Cause.LiesInData (stepKey parent key next) := by
  unfold stepKey
  split
  · exact .fail (.inl rfl)
  · exact .fail (.inl rfl)
  · exact .fail (.inl rfl)
  · exact failsFor_checkMember key next _

theorem failsFor_lead (value : Json) (taken : Nat) (segments : List Segment) :
    FailsFor Cause.LiesInData (lead value taken segments) := by
  induction segments generalizing value taken with
  | nil => exact .ok _
  | cons segment rest ih =>
      cases segment with
      | call call => exact .ok _
      | key name =>
          unfold lead
          split
          · exact .ok _
          · split
            · exact ih _ _
            · exact .fail (.inl rfl)

variable [Regex.Engine]

theorem failsFor_stepCall (call : Call) (base : Option Json) :
    FailsFor call.Causes (ctx.stepCall call base) := by
  unfold stepCall
  split
  · exact .fail (.inl (.inl rfl))
  · exact failsFor_apply ctx call base

theorem failsFor_walkFrom (current : Option Json) (segments : List Segment) :
    FailsFor (PathCauses segments) (ctx.walkFrom current segments) := by
  induction segments generalizing current with
  | nil => exact .ofOption (.inl (.inl rfl)) _
  | cons segment rest ih =>
      have hrest : ∀ value, FailsFor (PathCauses (segment :: rest)) (ctx.walkFrom value rest) :=
        fun value => (ih value).mono fun _ => .mono (List.subset_cons_self _ _)
      cases segment with
      | key name =>
          exact ((failsFor_stepKey current name rest.head?).mono fun _ => .inl).bind
            fun value _ => hrest value
      | call call =>
          exact ((ctx.failsFor_stepCall call current).mono
            fun _ hcause => hcause.pathCauses List.mem_cons_self).bind fun value _ => hrest value

theorem failsFor_evaluatePath (hparse : parseSegments path = .ok segments) :
    FailsFor (PathCauses segments) (ctx.evaluatePath path) := by
  rw [evaluatePath, hparse, ofExcept_ok, ok_bind]
  split
  · exact ctx.failsFor_walkFrom _ segments
  · exact .ofOption (.inl (.inl rfl)) _

theorem failsFor_broadcast (hparse : parseSegments path = .ok segments) :
    FailsFor (PathCauses segments) (ctx.broadcast path) := by
  rw [broadcast, hparse, ofExcept_ok, ok_bind]
  refine ((failsFor_lead ctx.root 0 segments).mono fun _ => .inl).bind fun found hlead => ?_
  obtain ⟨keys, rfl, -, -⟩ := exists_keys_of_lead hlead
  split
  · refine (FailsFor.mapM fun item _ => ?_).bind fun _ _ => .ok _
    unfold broadcastItem
    split
    · exact .ok _
    · exact (ctx.failsFor_walkFrom _ found.rest).mono fun _ =>
        .mono (List.subset_append_right _ _)
  · exact .fail (.inl (.inl rfl))

end Context

/-! ### Queries -/

namespace Query

/-- The text is evaluated as a path when the query is. -/
def IsPathOf (query path : String) : Prop :=
  ∃ form paths, parseForm query = .ok form ∧ pathsOf form = .ok paths ∧ path ∈ paths

section PathOf

variable {query body item : String} {kind : Aggregate} {items : List String}

theorem isPathOf_item (hform : parseForm query = .ok (.combinator kind body))
    (hitems : parseItems body = .ok items) (hmem : item ∈ items)
    (hliteral : parseNumber? item.toList = none) : IsPathOf query item :=
  ⟨_, _, hform, by rw [pathsOf, hitems]; rfl,
    List.mem_filter.mpr ⟨hmem, by rw [hliteral]; rfl⟩⟩

theorem isPathOf_broadcast (hform : parseForm query = .ok (.broadcast body)) :
    IsPathOf query body :=
  ⟨_, _, hform, rfl, List.mem_singleton_self body⟩

theorem isPathOf_path (hform : parseForm query = .ok (.path body)) : IsPathOf query body :=
  ⟨_, _, hform, rfl, List.mem_singleton_self body⟩

theorem eq_of_isPathOf_path {path : String} (hform : parseForm query = .ok (.path body))
    (hpath : IsPathOf query path) : path = body := by
  obtain ⟨_, _, hform', hpaths, hmem⟩ := hpath
  rw [hform] at hform'
  cases hform'
  cases hpaths
  exact List.mem_singleton.mp hmem

end PathOf

/-- What evaluating a query can fail for. -/
inductive QueryCauses (query : String) : Cause → Prop where
  | form {cause : Cause} (hform : parseForm query = .error cause) : QueryCauses query cause
  | list {form : Form} {cause : Cause} (hform : parseForm query = .ok form)
      (hpaths : pathsOf form = .error cause) : QueryCauses query cause
  | parse {path : String} {cause : Cause} (hpath : IsPathOf query path)
      (hparse : parseSegments path = .error cause) : QueryCauses query cause
  | walk {path : String} {segments : List Segment} {cause : Cause} (hpath : IsPathOf query path)
      (hparse : parseSegments path = .ok segments) (hcause : PathCauses segments cause) :
      QueryCauses query cause
  | item {aggregate : Aggregate} {body item : String}
      (hform : parseForm query = .ok (.combinator aggregate body)) :
      QueryCauses query (.itemNotNumber item)

end Query

namespace Context

variable [Regex.Engine] (ctx : Context) {query path : String}

theorem failsFor_path (hpath : IsPathOf query path) :
    FailsFor (QueryCauses query) (ctx.evaluatePath path) := by
  cases hparse : parseSegments path with
  | error cause =>
      rw [evaluatePath, hparse]
      exact .fail (.parse hpath hparse)
  | ok segments => exact (ctx.failsFor_evaluatePath hparse).mono fun _ => .walk hpath hparse

theorem failsFor_broadcastQuery (hpath : IsPathOf query path) :
    FailsFor (QueryCauses query) (ctx.broadcast path) := by
  cases hparse : parseSegments path with
  | error cause =>
      rw [broadcast, hparse]
      exact .fail (.parse hpath hparse)
  | ok segments => exact (ctx.failsFor_broadcast hparse).mono fun _ => .walk hpath hparse

theorem failsFor_aggregate {kind : Aggregate} {body : String}
    (hform : parseForm query = .ok (.combinator kind body)) :
    FailsFor (QueryCauses query) (ctx.aggregate kind body) := by
  cases hitems : parseItems body with
  | error cause =>
      rw [aggregate, hitems]
      exact .fail (.list hform (by rw [pathsOf, hitems]; rfl))
  | ok items =>
      rw [aggregate, hitems, ofExcept_ok, ok_bind]
      refine (FailsFor.mapM fun item hmem => ?_).bind fun _ _ => .ok _
      unfold itemValue
      split
      · exact .ok _
      · next hnumber =>
          have hpath := isPathOf_item hform hitems hmem hnumber
          exact (ctx.failsFor_path hpath).bind fun _ _ => .ofOption (.item hform) _

/-- Every cause that a query can fail for lies in the document or is found in its own text. -/
theorem failsFor_attempt (query : String) :
    FailsFor (QueryCauses query) (ctx.attempt query) := by
  cases hform : parseForm query with
  | error cause =>
      rw [attempt, hform]
      exact .fail (.form hform)
  | ok form =>
      rw [attempt, hform, ofExcept_ok, ok_bind]
      cases form with
      | combinator kind body => exact ctx.failsFor_aggregate hform
      | broadcast body => exact ctx.failsFor_broadcastQuery (isPathOf_broadcast hform)
      | path body => exact ctx.failsFor_path (isPathOf_path hform)

end Context

end DotQuery

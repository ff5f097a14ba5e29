import DotQuery.Evaluation.Navigator
import DotQuery.Proofs.Attempt

/-!
# Every failure quotes the whole query

The navigator raises its errors one by one, each where something fails. Operation by operation it
does what the evaluation does that finds a cause and knows no query, and its errors are those causes
with the text that it has been given. So the error of an item, an element or an argument cannot be
told from one of the query itself.
-/

namespace DotQuery

open Query Attempt

/-! ### Reading a part of the query -/

namespace Query.Quoting

variable {α : Type}

/-- The error of the query `query` for what is wrong with a part of it. -/
def blaming (query : String) (result : Except Cause α) : Except QueryError α :=
  result.mapError fun cause => ⟨cause, query⟩

variable (query : String)

theorem parseForm_eq : parseForm query = blaming query (Query.parseForm query) := by
  unfold parseForm Query.parseForm
  cases openedList? query.toList with
  | some opened =>
      dsimp only
      cases Text.dropTrailing? listClose opened.2 with
      | some body => rfl
      | none => rfl
  | none =>
      dsimp only
      cases Text.dropLeading? broadcastMark query.toList with
      | some body => rfl
      | none => rfl

theorem splitOrFail_eq (separator : Char) (text : String) :
    splitOrFail query separator text = blaming query (Query.splitOrFail separator text) := by
  unfold splitOrFail Query.splitOrFail
  cases split separator text.toList with
  | ok pieces => rfl
  | error rest => rfl

theorem parseSegment_eq (text : List Char) :
    parseSegment query text = blaming query (Query.parseSegment text) := by
  unfold parseSegment Query.parseSegment
  cases Text.cut? ['('] text with
  | none => rfl
  | some parts =>
      dsimp only
      cases Operator.ofName? (String.ofList parts.1) with
      | none => rfl
      | some operator =>
          dsimp only
          cases Text.dropTrailing? [')'] parts.2 with
          | none => rfl
          | some argument =>
              dsimp only
              rw [apply_ite (blaming query)]
              rfl

theorem parseSegments_eq (text : String) :
    parseSegments query text = blaming query (Query.parseSegments text) := by
  rw [parseSegments, Query.parseSegments]
  refine bind_eq_mapError (splitOrFail_eq query '.' text) fun pieces => ?_
  exact mapM_eq_mapError (parseSegment_eq query) pieces

theorem parseItems_eq (body : String) :
    parseItems query body = blaming query (Query.parseItems body) := by
  rw [parseItems, Query.parseItems]
  exact bind_eq_mapError (splitOrFail_eq query ',' body) fun pieces => rfl

theorem parseEquator_eq (expression : String) :
    parseEquator query expression = blaming query (Query.parseEquator expression) := by
  unfold parseEquator Query.parseEquator
  dsimp only
  cases comparator? expression.toList with
  | none => rfl
  | some comparator =>
      dsimp only
      cases Text.cut? comparator.symbol expression.toList with
      | none => rfl
      | some parts => rfl

end Query.Quoting

namespace Navigator

variable {α : Type} (nav : Navigator) (call : Call) (base : Option Json)

theorem ofExcept_blaming (result : Except Cause α) :
    Outcome.ofExcept (Quoting.blaming nav.query result) =
      (ofExcept result).inQuery nav.query := by
  cases result with
  | ok a => rfl
  | error cause => rfl

theorem orRaise_eq (cause : Cause) (option : Option α) :
    nav.orRaise cause option = (ofOption cause option).inQuery nav.query := by
  cases option with
  | some a => rfl
  | none => rfl

/-! ### Operators -/

theorem sequence_eq :
    nav.sequence call base = (Operators.sequence call base).inQuery nav.query :=
  nav.orRaise_eq _ _

theorem numbers_eq : nav.numbers call base = (Operators.numbers call base).inQuery nav.query := by
  rw [numbers, Operators.numbers]
  exact bind_eq_mapError (nav.sequence_eq call base) fun items => nav.orRaise_eq _ _

theorem numericDefault_eq :
    nav.numericDefault call = (Operators.numericDefault call).inQuery nav.query := by
  unfold numericDefault Operators.numericDefault
  dsimp only
  rw [apply_ite (inQuery nav.query)]
  cases parseLeadingNumber? call.trimmedArgument.toList with
  | some x => rfl
  | none => rfl

theorem map_eq : nav.map call base = (Operators.map call base).inQuery nav.query := by
  rw [map, Operators.map]
  refine bind_eq_mapError (nav.sequence_eq call base) fun items => ?_
  have hfields := mapM_eq_mapError (fun item => nav.orRaise_eq
    (.noField call.trimmedArgument call.raw) (item.member? call.trimmedArgument)) items
  exact bind_eq_mapError hfields fun fields => rfl

theorem filter_eq : nav.filter call base = (Operators.filter call base).inQuery nav.query := by
  rw [filter, Operators.filter, Quoting.parseEquator_eq, ofExcept_blaming]
  refine bind_eq_mapError (nav.sequence_eq call base) fun items => ?_
  exact bind_eq_mapError rfl fun equator => rfl

theorem mean_eq : nav.mean call base = (Operators.mean call base).inQuery nav.query := by
  rw [mean, Operators.mean]
  refine bind_eq_mapError (nav.numbers_eq call base) fun values => ?_
  exact bind_eq_mapError (nav.numericDefault_eq call) fun fallback => rfl

theorem extremum_eq (find : List Binary64 → Option Binary64) :
    nav.extremum find call base = (Operators.extremum find call base).inQuery nav.query := by
  rw [extremum, Operators.extremum]
  refine bind_eq_mapError (nav.numbers_eq call base) fun values => ?_
  cases find values with
  | some value => rfl
  | none => exact bind_eq_mapError (nav.numericDefault_eq call) fun fallback => rfl

theorem instantOf_eq (cause : Cause) (value : Option Json) :
    nav.instantOf cause value = (Dates.instantOf cause value).inQuery nav.query := by
  unfold instantOf Dates.instantOf
  cases value with
  | none => rfl
  | some value =>
      rw [Option.map_some]
      rcases Calendar.Instant.ofJson? value with failure | (_ | t)
      · rfl
      · rfl
      · rfl

theorem referenceMoment_eq :
    nav.referenceMoment call =
      (Dates.referenceMoment nav.toContext call).inQuery nav.query := by
  unfold referenceMoment Dates.referenceMoment
  cases Dates.reference? call.argument with
  | none => rfl
  | some path =>
      exact bind_eq_mapError (nav.instantOf_eq _ _) fun t => rfl

theorem stamp_eq (unit : Calendar.DateUnit) (now : Calendar.Moment) (value : Option Json) :
    nav.stamp call unit now value = (Dates.stamp call unit now value).inQuery nav.query := by
  rw [stamp, Dates.stamp]
  refine bind_eq_mapError (nav.instantOf_eq _ value) fun t => ?_
  by_cases hdate : call.operator = .date
  · rw [if_pos hdate, if_pos hdate]
    rfl
  · rw [if_neg hdate, if_neg hdate]
    exact bind_eq_mapError (nav.orRaise_eq _ _) fun years => rfl

theorem dates_eq :
    nav.dates call base = (Dates.evaluate nav.toContext call base).inQuery nav.query := by
  rw [dates, Dates.evaluate]
  refine bind_eq_mapError (nav.orRaise_eq _ _) fun unit => ?_
  refine bind_eq_mapError (nav.referenceMoment_eq call) fun now => ?_
  rcases base with _ | value
  · exact nav.stamp_eq call unit now none
  · cases value with
    | arr items =>
        have hstamps := mapM_eq_mapError (fun item => nav.stamp_eq call unit now (some item)) items
        exact bind_eq_mapError hstamps fun stamps => rfl
    | _ => exact nav.stamp_eq call unit now _

variable [Regex.Engine]

theorem regex_eq : nav.regex call base = (Operators.regex call base).inQuery nav.query := by
  rcases base with _ | value
  · rfl
  · cases value with
    | str text =>
        rw [regex, Operators.regex]
        cases Regex.Engine.find? call.argument.toList text.toList with
        | ok found => rfl
        | error e => rfl
    | _ => rfl

/-- An operator fails in the name of the query, for the cause that it fails for. -/
theorem apply_eq :
    nav.apply call base = (Operators.apply nav.toContext call base).inQuery nav.query := by
  unfold apply Operators.apply
  cases call.operator with
  | count | sum | unique =>
      exact bind_eq_mapError (nav.sequence_eq call base) fun items => rfl
  | range => exact bind_eq_mapError (nav.numbers_eq call base) fun values => rfl
  | map => exact nav.map_eq call base
  | filter => exact nav.filter_eq call base
  | mean => exact nav.mean_eq call base
  | min | max => exact nav.extremum_eq call base _
  | «exists» | default => rfl
  | age | date => exact nav.dates_eq call base
  | regex => exact nav.regex_eq call base

/-! ### Walking -/

omit [Regex.Engine] in
theorem checkMember_eq (key : String) (next : Option Segment) (member : Option Json) :
    nav.checkMember key next member =
      (Context.checkMember key next member).inQuery nav.query := by
  rcases next with _ | (_ | call)
  · rfl
  · rw [checkMember, Context.checkMember, apply_ite (inQuery nav.query),
      apply_ite (inQuery nav.query)]
    rfl
  · rw [checkMember, Context.checkMember, apply_ite (inQuery nav.query)]
    rfl

omit [Regex.Engine] in
theorem stepKey_eq (parent : Option Json) (key : String) (next : Option Segment) :
    nav.stepKey parent key next = (Context.stepKey parent key next).inQuery nav.query := by
  rcases parent with _ | value
  · rfl
  · cases value with
    | null | arr items => rfl
    | _ => exact nav.checkMember_eq key next _

theorem stepCall_eq :
    nav.stepCall call base = (nav.toContext.stepCall call base).inQuery nav.query := by
  rw [stepCall, Context.stepCall, apply_ite (inQuery nav.query), apply_eq]
  rfl

theorem walkFrom_eq (current : Option Json) (segments : List Segment) :
    nav.walkFrom current segments =
      (nav.toContext.walkFrom current segments).inQuery nav.query := by
  induction segments generalizing current with
  | nil => exact nav.orRaise_eq _ _
  | cons segment rest ih =>
      cases segment with
      | key name =>
          rw [walkFrom, Context.walkFrom]
          exact bind_eq_mapError (nav.stepKey_eq current name rest.head?) fun value => ih value
      | call call =>
          rw [walkFrom, Context.walkFrom]
          exact bind_eq_mapError (nav.stepCall_eq call current) fun value => ih (some value)

theorem evaluatePath_eq (path : String) :
    nav.evaluatePath path = (nav.toContext.evaluatePath path).inQuery nav.query := by
  rw [evaluatePath, Context.evaluatePath, Quoting.parseSegments_eq, ofExcept_blaming]
  refine bind_eq_mapError rfl fun segments => ?_
  by_cases hcalls : segments.any Segment.isCall
  · rw [if_pos hcalls, if_pos hcalls]
    exact nav.walkFrom_eq _ segments
  · rw [if_neg hcalls, if_neg hcalls]
    exact nav.orRaise_eq _ _

/-! ### Lists and broadcasts -/

theorem itemValue_eq (item : String) :
    nav.itemValue item = (nav.toContext.itemValue item).inQuery nav.query := by
  unfold itemValue Context.itemValue
  cases parseNumber? item.toList with
  | some x => rfl
  | none => exact bind_eq_mapError (nav.evaluatePath_eq item) fun value => nav.orRaise_eq _ _

theorem aggregate_eq (kind : Aggregate) (body : String) :
    nav.aggregate kind body = (nav.toContext.aggregate kind body).inQuery nav.query := by
  rw [aggregate, Context.aggregate, Quoting.parseItems_eq, ofExcept_blaming]
  refine bind_eq_mapError rfl fun items => ?_
  exact bind_eq_mapError (mapM_eq_mapError nav.itemValue_eq items) fun values => rfl

omit [Regex.Engine] in
theorem lead_eq (value : Json) (taken : Nat) (segments : List Segment) :
    nav.lead value taken segments = (Context.lead value taken segments).inQuery nav.query := by
  induction segments generalizing value taken with
  | nil => rfl
  | cons segment rest ih =>
      cases segment with
      | key name =>
          rw [lead, Context.lead, apply_ite (inQuery nav.query)]
          cases value.member? name with
          | some member =>
              dsimp only
              rw [ih]
              rfl
          | none => rfl
      | call call => rfl

theorem broadcastItem_eq (rest : List Segment) (item : Json) :
    nav.broadcastItem rest item = (nav.toContext.broadcastItem rest item).inQuery nav.query := by
  rw [broadcastItem, Context.broadcastItem, apply_ite (inQuery nav.query), walk, walkFrom_eq]
  rfl

theorem broadcast_eq (body : String) :
    nav.broadcast body = (nav.toContext.broadcast body).inQuery nav.query := by
  rw [broadcast, Context.broadcast, Quoting.parseSegments_eq, ofExcept_blaming]
  refine bind_eq_mapError rfl fun segments => ?_
  refine bind_eq_mapError (nav.lead_eq nav.root 0 segments) fun found => ?_
  cases found.value with
  | arr items =>
      have hanswers := mapM_eq_mapError (nav.broadcastItem_eq found.rest) items
      exact bind_eq_mapError hanswers fun answers => rfl
  | _ => rfl

theorem evaluateForm_eq (form : Form) :
    nav.evaluateForm form = (nav.toContext.evaluateForm form).inQuery nav.query := by
  cases form with
  | combinator kind body => exact nav.aggregate_eq kind body
  | broadcast body => exact nav.broadcast_eq body
  | path body => exact nav.evaluatePath_eq body

end Navigator

namespace Context

variable (ctx : Context)

section Engine

variable [Regex.Engine]

theorem query_eq_evaluate (query : String) : ctx.query query = ctx.evaluate query := by
  rw [Context.query, evaluate, attempt, Quoting.parseForm_eq,
    Navigator.ofExcept_blaming ⟨ctx, query⟩]
  exact bind_eq_mapError rfl (Navigator.evaluateForm_eq ⟨ctx, query⟩)

/-- Whatever part of a query fails, the error has the text of the whole query, and its message ends
with that text. -/
theorem query_failure_quotes_query (query : String) (e : QueryError)
    (hfailure : ctx.query query = .error (.error e)) :
    e.query = query ∧ ("(in " ++ query ++ ")").toList <:+ e.message.toList := by
  rw [query_eq_evaluate, evaluate, inQuery_eq_error_iff] at hfailure
  obtain ⟨-, hquery⟩ := hfailure
  refine ⟨hquery, (e.kind.title ++ " error: " ++ e.cause.detail ++ " ").toList, ?_⟩
  rw [← String.toList_append, ← hquery, QueryError.message]
  congr 1
  simp only [String.append_assoc]
  rfl

end Engine

open scoped Regex.Standard

/-- The path that fails is an item of a list. -/
theorem query_failure_quotes_query_item :
    let ctx : Context := ⟨.obj [("a", .obj [])], ⟨0, 0⟩⟩
    let e : QueryError := ⟨.noObjectPath "a.b", "max([a.b])"⟩
    ctx.query "max([a.b])" = .error (.error e) ∧ e.query = "max([a.b])" ∧
      ("(in " ++ "max([a.b])" ++ ")").toList <:+ e.message.toList := by
  intro ctx e
  have hfailure : ctx.query "max([a.b])" = .error (.error e) := rfl
  exact ⟨hfailure, ctx.query_failure_quotes_query "max([a.b])" e hfailure⟩

end Context

end DotQuery

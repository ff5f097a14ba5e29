import DotQuery.Command.Plan
import DotQuery.Proofs.RuleSet

/-!
# Several queries

Beside a rules file, or beside one another, queries become rules that are named by their own text.
They give the object a member each, behind those of the rules, with the value that the query has by
itself. The document fails where a rule may fail it or a query fails by itself, and besides only
where a rule comes to a date that leaves the calendar.
-/

namespace DotQuery

open Query Attempt

/-! ### A query as a rule -/

namespace Rule

variable {ctx : Context} {rule : Rule} {rules : List Rule} {query : String} {queries : List String}

section Engine

variable [Regex.Engine]

theorem exists_stops_iff :
    (∃ failure, rule.Stops ctx failure) ↔
      (rule.onFailure = .fail ∧ ∃ failure, ctx.evaluate rule.query = .error failure) ∨
        ctx.evaluate rule.query = .error .overflow := by
  constructor
  · rintro ⟨failure, hstops⟩
    cases hstops with
    | failed hpolicy hquery => exact .inl ⟨hpolicy, _, hquery⟩
    | overflow hquery => exact .inr hquery
  · rintro (⟨hpolicy, e | _, hquery⟩ | hquery)
    · exact ⟨_, .failed hpolicy hquery⟩
    · exact ⟨_, .overflow hquery⟩
    · exact ⟨_, .overflow hquery⟩

theorem exists_ofQuery_stops_iff :
    (∃ failure, (ofQuery query).Stops ctx failure) ↔
      ∃ failure, ctx.evaluate query = .error failure := by
  rw [exists_stops_iff]
  constructor
  · rintro (⟨-, hquery⟩ | hquery)
    · exact hquery
    · exact ⟨_, hquery⟩
  · exact fun hquery => .inl ⟨rfl, hquery⟩

theorem member?_ofQuery {value : Json} (hvalue : ctx.evaluate query = .ok value) :
    (ofQuery query).member? ctx = some (query, value) := by
  simp [member?, ofQuery, hvalue]

end Engine

theorem names_append_ofQuery :
    (rules ++ queries.map ofQuery).map name = rules.map name ++ queries := by
  rw [List.map_append, List.map_map]
  exact congrArg _ (List.map_id queries)

end Rule

namespace Command

variable {ctx : Context} {config : Option RulesConfig} {query : String} {queries : List String}

/-- What a query comes to by itself: it is planned without rules, and its plan gives `result`. -/
def AnswersAlone [Regex.Engine] (ctx : Context) (query : String)
    (result : Except (Failure AnswerError) Json) : Prop :=
  ∃ plan, makePlan none [query] = .ok plan ∧ plan.answer ctx = result

/-! ### Planning -/

/-- The rules of a rules file, none without one. -/
def rulesOf (config : Option RulesConfig) : List Rule :=
  (config.map RulesConfig.rules).getD []

/-- The rules of a plan: those of the file, and the queries behind them. -/
def plannedRules (config : Option RulesConfig) (queries : List String) : List Rule :=
  rulesOf config ++ queries.map Rule.ofQuery

theorem makePlan_single_eq_ok (hvalid : validate query = .ok ()) :
    makePlan none [query] = .ok (.single query) := by
  have hcompile : RuleSet.compile [Rule.ofQuery query] = .ok ⟨[Rule.ofQuery query]⟩ := by
    simpa [RuleSet.compile_eq_ok_iff, Rule.ofQuery] using hvalid
  simp only [makePlan, hcompile]
  rfl

theorem makePlan_eq_compile (hseveral : config = none → queries.length ≠ 1)
    (hasked : queries ≠ [] ∨ config.isSome) :
    makePlan config queries =
      (RuleSet.compile (plannedRules config queries)).mapError .invalidRules >>= fun set =>
        .ok (.fields set) := by
  cases config with
  | some _ => rfl
  | none =>
      match queries with
      | [] => simp at hasked
      | [query] => exact absurd rfl (hseveral rfl)
      | _ :: _ :: _ => rfl

theorem makePlan_eq_fields_iff (hseveral : config = none → queries.length ≠ 1) {set : RuleSet} :
    makePlan config queries = .ok (.fields set) ↔
      (queries ≠ [] ∨ config.isSome) ∧ RuleSet.compile (plannedRules config queries) = .ok set := by
  by_cases hasked : queries ≠ [] ∨ config.isSome
  · rw [makePlan_eq_compile hseveral hasked, bind_eq_ok_iff, and_iff_right hasked]
    simp only [mapError_eq_ok_iff, Except.ok.injEq, Plan.fields.injEq, exists_eq_right]
  · obtain ⟨hqueries, hconfig⟩ := not_or.mp hasked
    rw [not_not] at hqueries
    rw [Option.not_isSome_iff_eq_none] at hconfig
    subst hqueries hconfig
    simp [makePlan]

/-! ### Answering -/

section Alone

variable (hvalid : validate query = .ok ())
include hvalid

variable [Regex.Engine]

theorem answersAlone_iff {result : Except (Failure AnswerError) Json} :
    AnswersAlone ctx query result ↔
      (ctx.evaluate query).mapError (Failure.map .query) = result := by
  simp [AnswersAlone, makePlan_single_eq_ok hvalid, Plan.answer]

theorem answersAlone_ok_iff {value : Json} :
    AnswersAlone ctx query (.ok value) ↔ ctx.evaluate query = .ok value := by
  rw [answersAlone_iff hvalid, mapError_eq_ok_iff]

theorem exists_answersAlone_error_iff :
    (∃ failure, AnswersAlone ctx query (.error failure)) ↔
      ∃ failure, ctx.evaluate query = .error failure := by
  simp only [answersAlone_iff hvalid, mapError_eq_error_iff]
  constructor
  · rintro ⟨_, found, hfound, -⟩
    exact ⟨found, hfound⟩
  · rintro ⟨found, hfound⟩
    exact ⟨_, found, hfound, rfl⟩

theorem answersAlone_overflow_iff :
    AnswersAlone ctx query (.error .overflow) ↔ ctx.evaluate query = .error .overflow := by
  rw [answersAlone_iff hvalid, mapError_eq_error_iff]
  constructor
  · rintro ⟨e | _, hfound, hmap⟩
    · cases hmap
    · exact hfound
  · exact fun hfound => ⟨_, hfound, rfl⟩

end Alone

section Engine

variable [Regex.Engine]

theorem answer_fields_eq_ok_iff {set : RuleSet} {value : Json} :
    (Plan.fields set).answer ctx = .ok value ↔
      ∃ members, set.evaluate ctx = .ok members ∧ .obj members = value := by
  simp only [Plan.answer, bind_eq_ok_iff, mapError_eq_ok_iff, pure, Except.pure, Except.ok.injEq]

theorem exists_answer_fields_eq_error_iff {set : RuleSet} :
    (∃ failure, (Plan.fields set).answer ctx = .error failure) ↔
      ¬∃ members, set.evaluate ctx = .ok members := by
  rw [Plan.answer]
  cases set.evaluate ctx with
  | error failure => simp [Except.mapError]
  | ok members => simp [Except.mapError, pure, Except.pure]

end Engine

theorem asked_iff :
    ((rulesOf config).map Rule.name ++ queries ≠ [] ∨ config.isSome) ↔
      (queries ≠ [] ∨ config.isSome) := by
  cases config with
  | none => rfl
  | some _ => simp

theorem exists_makePlan_eq_fields_iff (hseveral : config = none → queries.length ≠ 1) :
    (∃ set, makePlan config queries = .ok (.fields set)) ↔
      ((rulesOf config).map Rule.name ++ queries ≠ [] ∨ config.isSome) ∧
        ((rulesOf config).map Rule.name ++ queries).Nodup ∧
        (∀ rule ∈ rulesOf config, validate rule.query = .ok ()) ∧
        ∀ query ∈ queries, validate query = .ok () := by
  simp only [makePlan_eq_fields_iff hseveral, RuleSet.compile_eq_ok_iff, plannedRules,
    Rule.names_append_ofQuery, List.forall_mem_append, List.forall_mem_map, asked_iff]
  constructor
  · rintro ⟨set, hasked, -, hnames, hvalid⟩
    exact ⟨hasked, hnames, hvalid⟩
  · rintro ⟨hasked, hnames, hvalid⟩
    exact ⟨⟨plannedRules config queries⟩, hasked, rfl, hnames, hvalid⟩

/-- Queries that have values give members with their own texts and values. -/
theorem forall₂_entries [Regex.Engine] (hvalid : ∀ query ∈ queries, validate query = .ok ())
    (hanswered : ∀ query ∈ queries, ∃ value, ctx.evaluate query = .ok value) :
    List.Forall₂ (fun query entry => entry.1 = query ∧ AnswersAlone ctx query (.ok entry.2)) queries
      ((queries.map Rule.ofQuery).filterMap (Rule.member? ctx)) := by
  induction queries with
  | nil => exact .nil
  | cons query rest ih =>
      rw [List.forall_mem_cons] at hvalid hanswered
      obtain ⟨value, hvalue⟩ := hanswered.1
      rw [List.map_cons, List.filterMap_cons_some (Rule.member?_ofQuery hvalue)]
      exact .cons ⟨rfl, (answersAlone_ok_iff hvalid.1).mpr hvalue⟩ (ih hvalid.2 hanswered.2)

section Planned

variable {rules : List Rule} (hnames : (rules.map Rule.name ++ queries).Nodup)
  (hrules : ∀ rule ∈ rules, validate rule.query = .ok ())
  (hqueries : ∀ query ∈ queries, validate query = .ok ())
include hnames hqueries

variable [Regex.Engine]

theorem exists_entries_of_answer_eq_ok {value : Json}
    (hvalue : (Plan.fields ⟨rules ++ queries.map .ofQuery⟩).answer ctx = .ok value) :
    ∃ members entries, value = .obj (members ++ entries) ∧
      members = rules.filterMap (Rule.member? ctx) ∧
      List.Forall₂ (fun query entry => entry.1 = query ∧ AnswersAlone ctx query (.ok entry.2))
        queries entries ∧
      ((members ++ entries).map Prod.fst).Nodup := by
  have hnodup : ((rules ++ queries.map Rule.ofQuery).map Rule.name).Nodup := by
    rwa [Rule.names_append_ofQuery]
  obtain ⟨members, hmembers, rfl⟩ := answer_fields_eq_ok_iff.mp hvalue
  have hnone := (RuleSet.exists_evaluate_eq_ok_iff ctx hnodup).mp ⟨members, hmembers⟩
  have hanswered : ∀ query ∈ queries, ∃ value, ctx.evaluate query = .ok value := by
    intro query hmem
    cases hquery : ctx.evaluate query with
    | ok value => exact ⟨value, rfl⟩
    | error failure =>
        -- a query that fails by itself would have stopped the document
        obtain ⟨found, hstops⟩ := Rule.exists_ofQuery_stops_iff.mpr ⟨failure, hquery⟩
        have hrule : Rule.ofQuery query ∈ rules ++ queries.map Rule.ofQuery :=
          List.mem_append_right _ (List.mem_map_of_mem hmem)
        exact absurd hstops (hnone _ hrule found)
  rw [RuleSet.eq_filterMap_of_evaluate_eq_ok ctx hnodup hmembers, List.filterMap_append]
  refine ⟨_, _, rfl, rfl, forall₂_entries hqueries hanswered, ?_⟩
  rw [← List.filterMap_append]
  exact (RuleSet.names_filterMap ctx).nodup hnodup

include hrules

theorem exists_answer_eq_error_iff :
    (∃ failure, (Plan.fields ⟨rules ++ queries.map .ofQuery⟩).answer ctx = .error failure) ↔
      (∃ rule ∈ rules, rule.onFailure = .fail ∧
          ∃ failure, AnswersAlone ctx rule.query (.error failure)) ∨
        (∃ query ∈ queries, ∃ failure, AnswersAlone ctx query (.error failure)) ∨
        ∃ rule ∈ rules, AnswersAlone ctx rule.query (.error .overflow) := by
  have hnodup : ((rules ++ queries.map Rule.ofQuery).map Rule.name).Nodup := by
    rwa [Rule.names_append_ofQuery]
  have hstops : (∃ failure,
        (Plan.fields ⟨rules ++ queries.map .ofQuery⟩).answer ctx = .error failure) ↔
      ∃ rule ∈ rules ++ queries.map Rule.ofQuery, ∃ failure, rule.Stops ctx failure := by
    rw [exists_answer_fields_eq_error_iff, RuleSet.exists_evaluate_eq_ok_iff ctx hnodup]
    push Not
    rfl
  rw [hstops]
  constructor
  · rintro ⟨rule, hmem, hrule⟩
    rcases List.mem_append.mp hmem with hfile | hquery
    · rcases Rule.exists_stops_iff.mp hrule with ⟨hpolicy, hfails⟩ | hoverflow
      · exact .inl ⟨rule, hfile, hpolicy,
          (exists_answersAlone_error_iff (hrules rule hfile)).mpr hfails⟩
      · exact .inr (.inr ⟨rule, hfile,
          (answersAlone_overflow_iff (hrules rule hfile)).mpr hoverflow⟩)
    · obtain ⟨query, hgiven, rfl⟩ := List.mem_map.mp hquery
      exact .inr (.inl ⟨query, hgiven, (exists_answersAlone_error_iff (hqueries query hgiven)).mpr
        (Rule.exists_ofQuery_stops_iff.mp hrule)⟩)
  · rintro (⟨rule, hfile, hpolicy, hfails⟩ | ⟨query, hgiven, hfails⟩ | ⟨rule, hfile, hoverflow⟩)
    · refine ⟨rule, List.mem_append_left _ hfile, Rule.exists_stops_iff.mpr (.inl ⟨hpolicy, ?_⟩)⟩
      exact (exists_answersAlone_error_iff (hrules rule hfile)).mp hfails
    · refine ⟨_, List.mem_append_right _ (List.mem_map_of_mem hgiven),
        Rule.exists_ofQuery_stops_iff.mpr ?_⟩
      exact (exists_answersAlone_error_iff (hqueries query hgiven)).mp hfails
    · refine ⟨rule, List.mem_append_left _ hfile, Rule.exists_stops_iff.mpr (.inr ?_)⟩
      exact (answersAlone_overflow_iff (hrules rule hfile)).mp hoverflow

end Planned

/-- Beside a rules file, or beside one another, queries are planned if all names differ and all
queries are valid. The answer for a document has the members that the rules give and then, for each
query, a member with its text and the value that it has by itself. It fails where a rule or a query
fails that may fail it, and where a rule of any policy is given up. -/
theorem answer_several_queries [Regex.Engine] (config : Option RulesConfig) (queries : List String)
    (hseveral : config = none → queries.length ≠ 1) :
    ((∃ set, makePlan config queries = .ok (.fields set)) ↔
      ((rulesOf config).map Rule.name ++ queries ≠ [] ∨ config.isSome) ∧
        ((rulesOf config).map Rule.name ++ queries).Nodup ∧
        (∀ rule ∈ rulesOf config, validate rule.query = .ok ()) ∧
        ∀ query ∈ queries, validate query = .ok ()) ∧
    ∀ set, makePlan config queries = .ok (.fields set) → ∀ ctx,
      (∀ value, (Plan.fields set).answer ctx = .ok value → ∃ members entries,
        value = .obj (members ++ entries) ∧
        members = (rulesOf config).filterMap (Rule.member? ctx) ∧
        List.Forall₂ (fun query entry => entry.1 = query ∧ AnswersAlone ctx query (.ok entry.2))
          queries entries ∧
        ((members ++ entries).map Prod.fst).Nodup) ∧
      ((∃ failure, (Plan.fields set).answer ctx = .error failure) ↔
        (∃ rule ∈ rulesOf config, rule.onFailure = .fail ∧
          ∃ failure, AnswersAlone ctx rule.query (.error failure)) ∨
        (∃ query ∈ queries, ∃ failure, AnswersAlone ctx query (.error failure)) ∨
        ∃ rule ∈ rulesOf config, AnswersAlone ctx rule.query (.error .overflow)) := by
  refine ⟨exists_makePlan_eq_fields_iff hseveral, fun set hplan ctx => ?_⟩
  obtain ⟨-, hnames, hrules, hqueries⟩ := (exists_makePlan_eq_fields_iff hseveral).mp ⟨set, hplan⟩
  obtain ⟨-, hcompile⟩ := (makePlan_eq_fields_iff hseveral).mp hplan
  obtain ⟨hset, -, -⟩ := RuleSet.compile_eq_ok_iff.mp hcompile
  obtain ⟨rules⟩ := set
  subst hset
  exact ⟨fun value => exists_entries_of_answer_eq_ok hnames hqueries,
    exists_answer_eq_error_iff hnames hrules hqueries⟩

open scoped Regex.Standard

/-- A rule and two queries, all answered, and the same ones where a query has no value. -/
theorem answer_several_queries_beside_rule :
    let config : Option RulesConfig := some ⟨none, [⟨"n", "a", .null⟩]⟩
    let set : RuleSet := ⟨[⟨"n", "a", .null⟩, .ofQuery "b", .ofQuery "c"]⟩
    let ctx : Context := ⟨.obj [("b", .bool true), ("c", .str "x")], ⟨0, 0⟩⟩
    (∃ set, makePlan config ["b", "c"] = .ok (.fields set)) ∧
    (∃ members entries, Json.obj [("n", .null), ("b", .bool true), ("c", .str "x")] =
        .obj (members ++ entries) ∧
      members = (rulesOf config).filterMap (Rule.member? ctx) ∧
      List.Forall₂ (fun query entry => entry.1 = query ∧ AnswersAlone ctx query (.ok entry.2))
        ["b", "c"] entries ∧
      ((members ++ entries).map Prod.fst).Nodup) ∧
    ∃ failure, (Plan.fields set).answer ⟨.obj [("b", .bool true)], ⟨0, 0⟩⟩ = .error failure := by
  intro config set ctx
  have hseveral : config = none → ["b", "c"].length ≠ 1 := nofun
  have hplan : makePlan config ["b", "c"] = .ok (.fields set) := rfl
  obtain ⟨hplanned, hanswer⟩ := answer_several_queries config ["b", "c"] hseveral
  refine ⟨hplanned.mpr (by decide), (hanswer set hplan ctx).1 _ rfl, ?_⟩
  refine (hanswer set hplan _).2.mpr (.inr (.inl ⟨"c", by decide, ?_⟩))
  exact ⟨_, .single "c", rfl, rfl⟩

/-- No rule may fail the document and the query has a value, but the rule comes to a date that
leaves the calendar. -/
theorem answer_eq_overflow_of_null_rule :
    let config : Option RulesConfig := some ⟨none, [⟨"a", "x.date(YY)", .null⟩]⟩
    let set : RuleSet := ⟨[⟨"a", "x.date(YY)", .null⟩, .ofQuery "y"]⟩
    let ctx : Context :=
      ⟨.obj [("x", .str "9999-12-31T23:59:59-01:00"), ("y", .bool true)], ⟨0, 0⟩⟩
    makePlan config ["y"] = .ok (.fields set) ∧
      (∀ rule ∈ rulesOf config, rule.onFailure ≠ .fail) ∧
      AnswersAlone ctx "y" (.ok (.bool true)) ∧
      (Plan.fields set).answer ctx = .error .overflow :=
  ⟨rfl, by decide, ⟨.single "y", rfl, rfl⟩, rfl⟩

end Command

end DotQuery

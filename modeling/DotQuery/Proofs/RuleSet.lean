import DotQuery.Proofs.Attempt
import DotQuery.Rules.Basic
import Mathlib.Data.List.Nodup
import Mathlib.Data.List.ReduceOption

/-!
# Rule sets

Rules are checked one after the other, and the first that repeats a name or has an invalid query is
the one that is reported. Since the names of checked rules differ, no rule writes over the member of
another: each adds its own member behind those of the rules before it, or nothing, and the document
fails where the first of them lets it fail.
-/

namespace DotQuery

open Query Attempt

namespace Rule

/-! ### Compiling -/

section Compiling

variable {position : Nat} {seen seen' : List String} {rule : Rule} {rules : List Rule}
  {refusal : RuleError}

/-- Why a rule is refused behind rules with the names `seen`. -/
inductive Refused (position : Nat) (seen : List String) (rule : Rule) : RuleError → Prop where
  | repeated (hname : rule.name ∈ seen) : Refused position seen rule (.duplicateName rule.name)
  | invalid {e : QueryError} (hname : rule.name ∉ seen) (hquery : validate rule.query = .error e) :
      Refused position seen rule (.invalidQuery position rule.name e)

theorem Refused.congr (hseen : ∀ name, name ∈ seen ↔ name ∈ seen')
    (hrefused : rule.Refused position seen refusal) : rule.Refused position seen' refusal := by
  cases hrefused with
  | repeated hname => exact .repeated ((hseen _).mp hname)
  | invalid hname hquery => exact .invalid (mt (hseen _).mpr hname) hquery

theorem check_cons_eq_ok_iff :
    check position seen (rule :: rules) = .ok () ↔
      rule.name ∉ seen ∧ validate rule.query = .ok () ∧
        check (position + 1) (rule.name :: seen) rules = .ok () := by
  simp only [check, List.contains_iff_mem]
  split
  · next hseen => simp [hseen]
  · next hfresh =>
      split
      · next hquery => simp [hquery]
      · next hquery => simp [hquery, hfresh]

theorem check_eq_ok_iff :
    check position seen rules = .ok () ↔ (rules.map Rule.name).Nodup ∧
      (rules.map Rule.name).Disjoint seen ∧ ∀ rule ∈ rules, validate rule.query = .ok () := by
  induction rules generalizing position seen with
  | nil => simp [check]
  | cons rule rest ih =>
      rw [check_cons_eq_ok_iff, ih, List.map_cons, List.nodup_cons, List.disjoint_cons_left,
        List.disjoint_cons_right, List.forall_mem_cons]
      tauto

/-- The rule that is reported is the first one that is refused. -/
theorem exists_of_check_eq_error (hcheck : check position seen rules = .error refusal) :
    ∃ before rule after, rules = before ++ rule :: after ∧ check position seen before = .ok () ∧
      rule.Refused (position + before.length) (before.map Rule.name ++ seen) refusal := by
  induction rules generalizing position seen with
  | nil => cases hcheck
  | cons rule rest ih =>
      simp only [check, List.contains_iff_mem] at hcheck
      split at hcheck
      · next hseen =>
          cases hcheck
          exact ⟨[], rule, rest, rfl, rfl, .repeated hseen⟩
      · next hfresh =>
          split at hcheck
          · next e hquery =>
              cases hcheck
              exact ⟨[], rule, rest, rfl, rfl, .invalid hfresh hquery⟩
          · next hquery =>
              obtain ⟨before, stop, after, rfl, hbefore, hstop⟩ := ih hcheck
              refine ⟨rule :: before, stop, after, rfl, ?_, ?_⟩
              · exact check_cons_eq_ok_iff.mpr ⟨hfresh, hquery, hbefore⟩
              · rw [List.length_cons, Nat.add_comm before.length, ← Nat.add_assoc]
                exact hstop.congr fun name => List.perm_middle.mem_iff

end Compiling

/-! ### Evaluating -/

section Evaluating

variable {ctx : Context} {rule : Rule} {failure : Failure FieldError}

variable [Regex.Engine]

/-- How a rule keeps a document from being answered. -/
@[mk_iff]
inductive Stops (ctx : Context) (rule : Rule) : Failure FieldError → Prop where
  | failed {e : QueryError} (hpolicy : rule.onFailure = .fail)
      (hquery : ctx.evaluate rule.query = .error (.error e)) :
      Stops ctx rule (.error ⟨rule.name, e⟩)
  | overflow (hquery : ctx.evaluate rule.query = .error .overflow) : Stops ctx rule .overflow

/-- The member that a rule adds unless it stops the evaluation. -/
def member? (ctx : Context) (rule : Rule) : Option (String × Json) :=
  match ctx.evaluate rule.query, rule.onFailure with
  | .ok value, _ => some (rule.name, value)
  | .error _, .null => some (rule.name, .null)
  | .error _, _ => none

/-- What a rule gives by itself, whatever the rules before it have given. -/
def field (ctx : Context) (rule : Rule) : Except (Failure FieldError) (Option (String × Json)) :=
  match ctx.evaluate rule.query, rule.onFailure with
  | .error .overflow, _ => .error .overflow
  | .error (.error e), .fail => .error (.error ⟨rule.name, e⟩)
  | _, _ => .ok (rule.member? ctx)

theorem field_eq_error_iff : rule.field ctx = .error failure ↔ rule.Stops ctx failure := by
  rw [stops_iff]
  unfold Rule.field
  rcases ctx.evaluate rule.query with (e | _) | value
  · cases rule.onFailure <;> simp [eq_comm]
  · simp [eq_comm]
  · simp

theorem eq_member?_of_field_eq_ok {found : Option (String × Json)}
    (hfield : rule.field ctx = .ok found) : found = rule.member? ctx := by
  unfold Rule.field at hfield
  split at hfield
  · cases hfield
  · cases hfield
  · cases hfield
    rfl

theorem exists_field_eq_ok_iff :
    (∃ found, rule.field ctx = .ok found) ↔ ∀ failure, ¬rule.Stops ctx failure := by
  simp only [← field_eq_error_iff]
  cases rule.field ctx <;> simp

theorem names_member? : ((rule.member? ctx).toList.map Prod.fst).Sublist [rule.name] := by
  unfold member?
  split <;> simp

end Evaluating

end Rule

namespace RuleSet

variable (ctx : Context) {done : List (String × Json)} {rule : Rule} {rules : List Rule}

section Engine

variable [Regex.Engine]

theorem addField_eq_field_bind (hfresh : rule.name ∉ done.map Prod.fst) :
    addField ctx done rule = rule.field ctx >>= fun found => .ok (done ++ found.toList) := by
  unfold addField Rule.field Rule.member?
  rcases ctx.evaluate rule.query with (e | _) | value
  · cases rule.onFailure with
    | fail => rfl
    | null => simp [Json.insertMember_of_not_mem hfresh]
    | skip => simp
  · rfl
  · simp [Json.insertMember_of_not_mem hfresh]

/-- Rules whose names are new give their members behind those that are there. -/
theorem foldlM_addField_eq (hnames : (done.map Prod.fst ++ rules.map Rule.name).Nodup) :
    rules.foldlM (addField ctx) done =
      rules.mapM (Rule.field ctx) >>= fun found => .ok (done ++ found.reduceOption) := by
  induction rules generalizing done with
  | nil => exact congrArg Except.ok (List.append_nil done).symm
  | cons rule rest ih =>
      have hfresh : rule.name ∉ done.map Prod.fst := fun hmem =>
        (List.nodup_append.mp hnames).2.2 _ hmem _ List.mem_cons_self rfl
      rw [List.foldlM_cons, addField_eq_field_bind ctx hfresh, List.mapM_cons]
      cases hfield : rule.field ctx with
      | error failure => rfl
      | ok found =>
          have hlater : ((done ++ found.toList).map Prod.fst ++ rest.map Rule.name).Nodup := by
            rw [Rule.eq_member?_of_field_eq_ok hfield, List.map_append, List.append_assoc]
            exact hnames.sublist ((List.Sublist.refl _).append (Rule.names_member?.append_right _))
          rw [ok_bind, ok_bind, ok_bind, ih hlater, bind_assoc]
          cases found <;> simp [List.reduceOption]

theorem reduceOption_of_mapM_field {found : List (Option (String × Json))}
    (hfound : rules.mapM (Rule.field ctx) = .ok found) :
    found.reduceOption = rules.filterMap (Rule.member? ctx) := by
  have heach : rules.map (Rule.member? ctx) = found := by
    rw [← List.forall₂_eq_eq_eq, List.forall₂_map_left_iff]
    exact (mapM_eq_ok_iff.mp hfound).imp fun _ _ h => (Rule.eq_member?_of_field_eq_ok h).symm
  rw [← heach, List.reduceOption, List.filterMap_map, Function.id_comp]

theorem names_filterMap :
    ((rules.filterMap (Rule.member? ctx)).map Prod.fst).Sublist (rules.map Rule.name) := by
  induction rules with
  | nil => exact .slnil
  | cons rule rest ih =>
      have hfirst : ((rule.member? ctx).toList.map Prod.fst).Sublist [rule.name] :=
        Rule.names_member?
      cases hmember : rule.member? ctx with
      | none =>
          rw [List.filterMap_cons_none hmember]
          exact ih.cons _
      | some member =>
          rw [List.filterMap_cons_some hmember]
          rw [hmember] at hfirst
          exact hfirst.append ih

end Engine

theorem compile_eq_ok_iff {set : RuleSet} :
    compile rules = .ok set ↔ set.rules = rules ∧ (rules.map Rule.name).Nodup ∧
      ∀ rule ∈ rules, validate rule.query = .ok () := by
  have hcheck : Rule.check 1 [] rules = .ok () ↔ (rules.map Rule.name).Nodup ∧
      ∀ rule ∈ rules, validate rule.query = .ok () := by
    rw [Rule.check_eq_ok_iff, and_iff_right (List.disjoint_nil_right _)]
  rw [compile, bind_eq_ok_iff, ← hcheck]
  constructor
  · rintro ⟨_, hchecked, hset⟩
    cases hset
    exact ⟨rfl, hchecked⟩
  · rintro ⟨rfl, hchecked⟩
    exact ⟨(), hchecked, rfl⟩

theorem exists_of_compile_eq_error {refusal : RuleError}
    (hcompile : compile rules = .error refusal) :
    ∃ before rule after, rules = before ++ rule :: after ∧ (before.map Rule.name).Nodup ∧
      (∀ earlier ∈ before, validate earlier.query = .ok ()) ∧
      rule.Refused (before.length + 1) (before.map Rule.name) refusal := by
  rw [compile, bind_eq_error_iff] at hcompile
  rcases hcompile with hcheck | ⟨_, -, hset⟩
  · obtain ⟨before, rule, after, hrules, hbefore, hrefused⟩ := Rule.exists_of_check_eq_error hcheck
    rw [List.append_nil, Nat.add_comm] at hrefused
    obtain ⟨hnames, -, hearlier⟩ := Rule.check_eq_ok_iff.mp hbefore
    exact ⟨before, rule, after, hrules, hnames, hearlier, hrefused⟩
  · cases hset

section Evaluate

variable {set : RuleSet} (hnames : (set.rules.map Rule.name).Nodup)
include hnames

variable [Regex.Engine]

theorem evaluate_eq_mapM :
    set.evaluate ctx = set.rules.mapM (Rule.field ctx) >>= fun found => .ok found.reduceOption :=
  foldlM_addField_eq ctx hnames

theorem exists_evaluate_eq_ok_iff :
    (∃ members, set.evaluate ctx = .ok members) ↔
      ∀ rule ∈ set.rules, ∀ failure, ¬rule.Stops ctx failure := by
  simp only [← Rule.exists_field_eq_ok_iff, ← exists_mapM_eq_ok_iff, evaluate_eq_mapM ctx hnames,
    bind_eq_ok_iff]
  exact ⟨fun ⟨_, found, hfound, _⟩ => ⟨found, hfound⟩,
    fun ⟨found, hfound⟩ => ⟨_, found, hfound, rfl⟩⟩

theorem eq_filterMap_of_evaluate_eq_ok {members : List (String × Json)}
    (hmembers : set.evaluate ctx = .ok members) :
    members = set.rules.filterMap (Rule.member? ctx) := by
  rw [evaluate_eq_mapM ctx hnames, bind_eq_ok_iff] at hmembers
  obtain ⟨found, hfound, hreduced⟩ := hmembers
  cases hreduced
  exact reduceOption_of_mapM_field ctx hfound

/-- The rule that decides the failure is the first one that stops the evaluation. -/
theorem exists_of_evaluate_eq_error {failure : Failure FieldError}
    (hfailure : set.evaluate ctx = .error failure) :
    ∃ before rule after, set.rules = before ++ rule :: after ∧
      (∀ earlier ∈ before, ∀ found, ¬earlier.Stops ctx found) ∧ rule.Stops ctx failure := by
  rw [evaluate_eq_mapM ctx hnames, bind_eq_error_iff] at hfailure
  rcases hfailure with hfields | ⟨_, -, hreduced⟩
  · obtain ⟨before, rule, after, hrules, hbefore, hrule⟩ := exists_of_mapM_eq_error hfields
    exact ⟨before, rule, after, hrules,
      fun earlier hmem => Rule.exists_field_eq_ok_iff.mp (hbefore earlier hmem),
      Rule.field_eq_error_iff.mp hrule⟩
  · cases hreduced

end Evaluate

/-- A rule set is compiled if its names differ and its queries are valid, and its first rule that
breaks this is reported otherwise. It then gives each rule's own member, in the order of the rules
and under different names, unless a rule stops it: the first one that does decides the failure. -/
theorem evaluate_rule_by_rule [Regex.Engine] (rules : List Rule) :
    (∀ set, compile rules = .ok set ↔ set.rules = rules ∧ (rules.map Rule.name).Nodup ∧
      ∀ rule ∈ rules, validate rule.query = .ok ()) ∧
    (∀ refusal, compile rules = .error refusal → ∃ before rule after,
      rules = before ++ rule :: after ∧ (before.map Rule.name).Nodup ∧
      (∀ earlier ∈ before, validate earlier.query = .ok ()) ∧
      rule.Refused (before.length + 1) (before.map Rule.name) refusal) ∧
    ∀ set, compile rules = .ok set → ∀ ctx,
      ((∃ members, set.evaluate ctx = .ok members) ↔
        ∀ rule ∈ rules, ∀ failure, ¬rule.Stops ctx failure) ∧
      (∀ members, set.evaluate ctx = .ok members →
        members = rules.filterMap (Rule.member? ctx) ∧ (members.map Prod.fst).Nodup) ∧
      ∀ failure, set.evaluate ctx = .error failure → ∃ before rule after,
        rules = before ++ rule :: after ∧
        (∀ earlier ∈ before, ∀ found, ¬earlier.Stops ctx found) ∧ rule.Stops ctx failure := by
  refine ⟨fun set => compile_eq_ok_iff, fun refusal => exists_of_compile_eq_error, ?_⟩
  intro set hcompile ctx
  obtain ⟨rfl, hnames, -⟩ := compile_eq_ok_iff.mp hcompile
  refine ⟨exists_evaluate_eq_ok_iff ctx hnames, fun members hmembers => ?_, fun failure => ?_⟩
  · rw [eq_filterMap_of_evaluate_eq_ok ctx hnames hmembers]
    exact ⟨rfl, (names_filterMap ctx).nodup hnames⟩
  · exact exists_of_evaluate_eq_error ctx hnames

open scoped Regex.Standard

/-- A query that fails gives null, nothing or the failure of the document, as its rule says, and a
repeated name is refused. -/
theorem evaluate_rule_by_rule_policies :
    [("kept", .bool true), ("empty", .null)] =
        [⟨"kept", "a", .fail⟩, ⟨"empty", "b", .null⟩, ⟨"left", "b", .skip⟩].filterMap
          (Rule.member? ⟨.obj [("a", .bool true)], ⟨0, 0⟩⟩) ∧
    (∃ (before : List Rule) (rule : Rule) (after : List Rule),
      [⟨"empty", "b", .null⟩, ⟨"stop", "b", .fail⟩] = before ++ rule :: after ∧
        (∀ earlier ∈ before, ∀ found, ¬earlier.Stops ⟨.obj [], ⟨0, 0⟩⟩ found) ∧
        rule.Stops ⟨.obj [], ⟨0, 0⟩⟩ (.error ⟨"stop", ⟨.noObjectPath "b", "b"⟩⟩)) ∧
    ∃ (before : List Rule) (rule : Rule) (after : List Rule),
      [⟨"kept", "a", .fail⟩, ⟨"kept", "b", .null⟩] = before ++ rule :: after ∧
        (before.map Rule.name).Nodup ∧ (∀ earlier ∈ before, validate earlier.query = .ok ()) ∧
        rule.Refused (before.length + 1) (before.map Rule.name) (.duplicateName "kept") :=
  ⟨(((evaluate_rule_by_rule _).2.2 ⟨_⟩ rfl _).2.1 _ rfl).1,
    ((evaluate_rule_by_rule _).2.2 ⟨_⟩ rfl _).2.2 _ rfl,
    (evaluate_rule_by_rule _).2.1 _ rfl⟩

/-- A rule that may fail still stops the evaluation at a date that leaves the calendar. -/
theorem evaluate_eq_overflow_of_null :
    let rules : List Rule := [⟨"a", "x.date(YY)", .null⟩]
    let ctx : Context := ⟨.obj [("x", .str "9999-12-31T23:59:59-01:00")], ⟨0, 0⟩⟩
    compile rules = .ok ⟨rules⟩ ∧ (∀ rule ∈ rules, rule.onFailure ≠ .fail) ∧
      evaluate ⟨rules⟩ ctx = .error .overflow :=
  ⟨rfl, by decide, rfl⟩

end RuleSet

end DotQuery

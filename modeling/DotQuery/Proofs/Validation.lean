import DotQuery.Proofs.Causes
import DotQuery.Proofs.Cut

/-!
# Validation

Validation reads a query without a document. What it accepts only fails for the document, for a
default that is no number or for an item that is no number. What it refuses has no answer, unless it
is a broadcast over an empty sequence: there is no element then for which the fault could come up.
-/

namespace DotQuery

open Query Attempt

namespace Query

variable {query path : String} {segment : Segment}

/-- If the call is a filter, its argument is a comparison. -/
def Call.HasEquator (call : Call) : Prop :=
  call.operator = .filter → ∃ equator, parseEquator call.argument = .ok equator

/-! ### What is accepted -/

theorem validateSegment_eq_ok_iff :
    validateSegment segment = .ok () ↔ ∀ call, segment = .call call → call.HasEquator := by
  cases segment with
  | key name => simp [validateSegment]
  | call call =>
      simp only [validateSegment, Segment.call.injEq, forall_eq', Call.HasEquator]
      split
      · next hfilter =>
          rw [bind_eq_ok_iff]
          exact ⟨fun ⟨equator, hequator, _⟩ _ => ⟨equator, hequator⟩,
            fun hequator => (hequator hfilter).imp fun _ h => ⟨h, rfl⟩⟩
      · next hother => simp [hother]

/-- A path is accepted if it can be read and its filters are comparisons. -/
theorem validatePath_eq_ok_iff :
    validatePath path = .ok () ↔ ∃ segments, parseSegments path = .ok segments ∧
      ∀ call, .call call ∈ segments → call.HasEquator := by
  rw [validatePath, bind_eq_ok_iff]
  refine exists_congr fun segments => and_congr_right fun _ => ?_
  simp only [forM_eq_ok_iff, validateSegment_eq_ok_iff]
  exact ⟨fun h call hmem => h _ hmem call rfl, fun h segment hmem call heq => h call (heq ▸ hmem)⟩

/-- A query is accepted if it has a form and all of its paths are accepted. -/
theorem validate_eq_ok_iff :
    validate query = .ok () ↔ ∃ form paths, parseForm query = .ok form ∧
      pathsOf form = .ok paths ∧ ∀ path ∈ paths, validatePath path = .ok () := by
  have hcause : validate query = .ok () ↔ validateCause query = .ok () := by
    cases h : validateCause query <;> simp [validate, h, Except.mapError]
  rw [hcause, validateCause]
  simp only [bind_eq_ok_iff, forM_eq_ok_iff, exists_and_left]

theorem IsPathOf.validatePath_eq_ok (hpath : IsPathOf query path)
    (hvalid : validate query = .ok ()) : validatePath path = .ok () := by
  obtain ⟨form, paths, hform, hpaths, hmem⟩ := hpath
  obtain ⟨form', paths', hform', hpaths', hall⟩ := validate_eq_ok_iff.mp hvalid
  cases hform.symm.trans hform'
  cases hpaths.symm.trans hpaths'
  exact hall path hmem

theorem eq_of_parseForm_combinator {aggregate : Aggregate} {body : String}
    (hform : parseForm query = .ok (.combinator aggregate body)) :
    query = aggregate.opening ++ body ++ "])" := by
  unfold parseForm at hform
  split at hform
  · next found rest hopened =>
      split at hform
      · next inner hclose =>
          cases hform
          obtain ⟨opened, -, hopened⟩ := List.exists_of_findSome?_eq_some hopened
          obtain ⟨_, hlead, hpair⟩ := Option.map_eq_some_iff.mp hopened
          cases hpair
          have hquery := Text.dropLeading?_eq_some_iff.mp hlead
          rw [Text.dropTrailing?_eq_some_iff.mp hclose] at hquery
          rw [← String.toList_inj, hquery]
          simp [listClose]
      · cases hform
  · split at hform <;> cases hform

/-- A query that has been accepted never fails for a missing comparator. If it fails for one of its
operators, then for a default that is no number, and only a list of queries fails for an item. -/
theorem kind_of_validate_eq_ok [Regex.Engine] (hvalid : validate query = .ok ())
    {ctx : Context} {e : QueryError} (herror : ctx.evaluate query = .error (.error e)) :
    e.kind ≠ .equator ∧
    (e.kind = .operator → ∃ path segments call, IsPathOf query path ∧
      parseSegments path = .ok segments ∧ .call call ∈ segments ∧
      call.operator ∈ [.min, .max, .mean] ∧
      parseLeadingNumber? call.trimmedArgument.toList = none ∧
      e.cause = .defaultNotNumber call.trimmedArgument call.raw) ∧
    (e.kind = .multiQuery → ∃ aggregate body, parseForm query = .ok (.combinator aggregate body) ∧
      query = aggregate.opening ++ body ++ "])") := by
  have hcause := ctx.failsFor_attempt query e.cause (inQuery_eq_error_iff.mp herror).1
  obtain ⟨cause, text⟩ := e
  dsimp only [QueryError.kind] at hcause ⊢
  obtain ⟨form, paths, hform, hpaths, -⟩ := validate_eq_ok_iff.mp hvalid
  cases hcause with
  | form hrefused => cases hform.symm.trans hrefused
  | list hform' hrefused =>
      cases hform.symm.trans hform'
      cases hpaths.symm.trans hrefused
  | parse hpath hrefused =>
      obtain ⟨segments, hparse, -⟩ :=
        validatePath_eq_ok_iff.mp (hpath.validatePath_eq_ok hvalid)
      cases hparse.symm.trans hrefused
  | @walk path segments _ hpath hparse hcause =>
      rcases hcause with (hkind | hkind | hkind) | ⟨call, hmem, hfault⟩
      · simp [hkind]
      · simp [hkind]
      · simp [hkind]
      · cases hfault with
        | default hoperator hargument =>
            exact ⟨nofun, fun _ => ⟨_, _, call, hpath, hparse, hmem, hoperator, hargument, rfl⟩,
              nofun⟩
        | equator hoperator hargument =>
            obtain ⟨segments', hparse', hall⟩ :=
              validatePath_eq_ok_iff.mp (hpath.validatePath_eq_ok hvalid)
            cases hparse.symm.trans hparse'
            obtain ⟨equator, hequator⟩ := hall call hmem hoperator
            cases hequator.symm.trans hargument
  | @item aggregate body item hlist =>
      exact ⟨nofun, nofun, fun _ => ⟨aggregate, body, hlist, eq_of_parseForm_combinator hlist⟩⟩

open scoped Regex.Standard

/-- Within a list of queries, the default of a maximum over nothing is no number. -/
theorem kind_of_validate_eq_ok_default :
    ∃ path segments call, IsPathOf "range([a.max(x)])" path ∧
      parseSegments path = .ok segments ∧ .call call ∈ segments ∧
      call.operator ∈ [.min, .max, .mean] ∧
      parseLeadingNumber? call.trimmedArgument.toList = none ∧
      Cause.defaultNotNumber "x" "max(x)" = .defaultNotNumber call.trimmedArgument call.raw := by
  have hvalid : validate "range([a.max(x)])" = .ok () := rfl
  have herror : Context.evaluate ⟨.obj [("a", .arr [])], ⟨0, 0⟩⟩ "range([a.max(x)])" =
      .error (.error ⟨.defaultNotNumber "x" "max(x)", "range([a.max(x)])"⟩) := rfl
  exact (kind_of_validate_eq_ok hvalid herror).2.1 rfl

end Query

/-! ### What is refused -/

namespace Context

variable (ctx : Context) {query path body : String} {segments : List Segment} {call : Call}
  {current : Option Json} {value : Json}

section Engine

variable [Regex.Engine]

theorem hasEquator_of_stepCall (hcall : ctx.stepCall call current = .ok value) :
    call.HasEquator := by
  intro hfilter
  unfold stepCall at hcall
  split at hcall
  · cases hcall
  · simp only [Operators.apply, hfilter, Operators.filter, bind_eq_ok_iff,
      ofExcept_eq_ok_iff] at hcall
    obtain ⟨-, -, equator, hequator, -⟩ := hcall
    exact ⟨equator, hequator⟩

/-- A walk that comes to its end has passed each of its filters. -/
theorem hasEquator_of_walkFrom (hwalk : ctx.walkFrom current segments = .ok value) :
    ∀ call, .call call ∈ segments → call.HasEquator := by
  induction segments generalizing current with
  | nil => exact nofun
  | cons segment rest ih =>
      intro call hmem
      cases segment with
      | key name =>
          obtain ⟨member, -, hrest⟩ := bind_eq_ok_iff.mp hwalk
          exact ih hrest call (by simpa using hmem)
      | call first =>
          obtain ⟨next, hfirst, hrest⟩ := bind_eq_ok_iff.mp hwalk
          rcases List.mem_cons.mp hmem with heq | hmem
          · cases heq
            exact ctx.hasEquator_of_stepCall hfirst
          · exact ih hrest call hmem

theorem validatePath_of_evaluatePath (hvalue : ctx.evaluatePath path = .ok value) :
    validatePath path = .ok () := by
  obtain ⟨segments, hparse, hvalue⟩ := bind_eq_ok_iff.mp hvalue
  rw [validatePath_eq_ok_iff]
  refine ⟨segments, ofExcept_eq_ok_iff.mp hparse, fun call hmem => ?_⟩
  split at hvalue
  · exact ctx.hasEquator_of_walkFrom hvalue call hmem
  · next hcalls => exact absurd (List.any_eq_true.mpr ⟨_, hmem, rfl⟩) hcalls

theorem validatePath_of_itemValue {number : Binary64} (hvalue : ctx.itemValue path = .ok number)
    (hnumber : parseNumber? path.toList = none) : validatePath path = .ok () := by
  simp only [itemValue, hnumber] at hvalue
  obtain ⟨value, hvalue, -⟩ := bind_eq_ok_iff.mp hvalue
  exact ctx.validatePath_of_evaluatePath hvalue

theorem hasEquator_of_broadcastItem {item : Json}
    (hitem : ctx.broadcastItem segments item = .ok value) :
    ∀ call, .call call ∈ segments → call.HasEquator := by
  unfold broadcastItem at hitem
  split at hitem
  · next hempty =>
      rw [List.isEmpty_iff.mp hempty]
      exact nofun
  · exact ctx.hasEquator_of_walkFrom hitem

/-- The query is a broadcast that can be read, and its leading keys reach an empty sequence. -/
def BroadcastsNothing (ctx : Context) (query : String) : Prop :=
  ∃ body keys rest, parseForm query = .ok (.broadcast body) ∧
    parseSegments body = .ok (keys.map .key ++ rest) ∧ ctx.root.LeadsTo keys []

theorem attempt_of_broadcastsNothing (hnothing : ctx.BroadcastsNothing query) :
    ctx.attempt query = .ok (.arr []) := by
  obtain ⟨body, keys, rest, hform, hparse, hleads⟩ := hnothing
  rw [attempt, hform, ofExcept_ok, ok_bind, evaluateForm, ctx.broadcast_eq_mapM hparse hleads]
  rfl

theorem validatePath_of_broadcast (hform : parseForm query = .ok (.broadcast body))
    (hvalue : ctx.broadcast body = .ok value) (hsome : ¬ctx.BroadcastsNothing query) :
    validatePath body = .ok () := by
  obtain ⟨keys, rest, items, values, hparse, hleads, hvalues, -⟩ :=
    ctx.exists_of_broadcast_eq_ok hvalue
  rw [validatePath_eq_ok_iff]
  refine ⟨_, hparse, fun call hmem => ?_⟩
  have hrest : .call call ∈ rest := by simpa using hmem
  cases items with
  | nil => exact absurd ⟨body, keys, rest, hform, hparse, hleads⟩ hsome
  | cons item items =>
      obtain ⟨value, hitem⟩ := exists_mapM_eq_ok_iff.mp ⟨values, hvalues⟩ item List.mem_cons_self
      exact ctx.hasEquator_of_broadcastItem hitem call hrest

/-- What has an answer is accepted, unless it broadcasts over nothing. -/
theorem validate_of_attempt (hvalue : ctx.attempt query = .ok value)
    (hsome : ¬ctx.BroadcastsNothing query) : validate query = .ok () := by
  obtain ⟨form, hform, hvalue⟩ := bind_eq_ok_iff.mp hvalue
  rw [ofExcept_eq_ok_iff] at hform
  rw [validate_eq_ok_iff]
  cases form with
  | path body =>
      refine ⟨_, _, hform, rfl, fun path hmem => ?_⟩
      rw [List.mem_singleton.mp hmem]
      exact ctx.validatePath_of_evaluatePath hvalue
  | broadcast body =>
      refine ⟨_, _, hform, rfl, fun path hmem => ?_⟩
      rw [List.mem_singleton.mp hmem]
      exact ctx.validatePath_of_broadcast hform hvalue hsome
  | combinator kind body =>
      obtain ⟨items, hitems, hvalue⟩ := bind_eq_ok_iff.mp hvalue
      obtain ⟨values, hvalues, -⟩ := bind_eq_ok_iff.mp hvalue
      rw [ofExcept_eq_ok_iff] at hitems
      refine ⟨_, _, hform, by rw [pathsOf, hitems]; rfl, fun item hmem => ?_⟩
      obtain ⟨hitem, hnumber⟩ := List.mem_filter.mp hmem
      obtain ⟨number, hnumberValue⟩ := exists_mapM_eq_ok_iff.mp ⟨values, hvalues⟩ item hitem
      exact ctx.validatePath_of_itemValue hnumberValue (Option.isNone_iff_eq_none.mp hnumber)

/-- A query that is refused has no answer in any document, unless it is a broadcast that can be read
and its leading keys reach an empty sequence there: then the answer is empty. -/
theorem evaluate_of_validate_eq_error {refusal : QueryError}
    (hrefused : validate query = .error refusal) :
    (ctx.BroadcastsNothing query → ctx.evaluate query = .ok (.arr [])) ∧
    (¬ctx.BroadcastsNothing query → ctx.evaluate query ≠ .error .overflow →
      ∃ e, ctx.evaluate query = .error (.error e)) := by
  refine ⟨fun hnothing => ?_, fun hsome hcalendar => ?_⟩
  · exact inQuery_eq_ok_iff.mpr (ctx.attempt_of_broadcastsNothing hnothing)
  · cases hresult : ctx.evaluate query with
    | ok value =>
        cases hrefused.symm.trans (ctx.validate_of_attempt (inQuery_eq_ok_iff.mp hresult) hsome)
    | error failure =>
        cases failure with
        | error e => exact ⟨e, rfl⟩
        | overflow => exact absurd hresult hcalendar

end Engine

open scoped Regex.Standard

/-- Over an empty sequence a filter without a comparator fails in a path, and it is never reached in
a broadcast. -/
theorem evaluate_of_validate_eq_error_empty :
    evaluate ⟨.obj [("a", .arr [])], ⟨0, 0⟩⟩ "each.a.filter(code)" = .ok (.arr []) ∧
      ∃ e, evaluate ⟨.obj [("a", .arr [])], ⟨0, 0⟩⟩ "a.filter(code)" = .error (.error e) := by
  have hempty : Json.LeadsTo (.obj [("a", .arr [])]) ["a"] [] := .member rfl (.here [])
  have hsome : ¬BroadcastsNothing ⟨.obj [("a", .arr [])], ⟨0, 0⟩⟩ "a.filter(code)" := by
    rintro ⟨body, -, -, hform, -⟩
    cases (rfl : parseForm "a.filter(code)" = .ok (.path "a.filter(code)")).symm.trans hform
  have hcalendar : evaluate ⟨.obj [("a", .arr [])], ⟨0, 0⟩⟩ "a.filter(code)" ≠
      .error .overflow := by
    rw [(rfl : evaluate ⟨.obj [("a", .arr [])], ⟨0, 0⟩⟩ "a.filter(code)" =
      .error (.error ⟨.noEquator "code", "a.filter(code)"⟩))]
    exact nofun
  exact ⟨(evaluate_of_validate_eq_error _ rfl).1 ⟨_, ["a"], _, rfl, rfl, hempty⟩,
    (evaluate_of_validate_eq_error _ rfl).2 hsome hcalendar⟩

/-- A query that is refused and yet has an answer. -/
theorem evaluate_eq_ok_of_refused :
    validate "each.a.filter(code)" =
        .error ⟨.noEquator "code", "each.a.filter(code)"⟩ ∧
      evaluate ⟨.obj [("a", .arr [])], ⟨0, 0⟩⟩ "each.a.filter(code)" = .ok (.arr []) :=
  ⟨rfl, rfl⟩

end Context

end DotQuery

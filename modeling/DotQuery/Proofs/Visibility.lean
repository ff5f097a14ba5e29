import DotQuery.Proofs.Causes
import DotQuery.Proofs.LeadingKeys
import DotQuery.Proofs.Quoting
import DotQuery.Proofs.ReferencePath

/-!
# What a query can see

A query sees the value that its keys lead to, the date at the reference path of an age or a date,
and the time of the evaluation where an age names no reference. So two evaluations cannot be told
apart that are alike in these, and a date never shows the time it is evaluated at.
-/

namespace DotQuery

open Query Attempt

/-! ### Calls -/

namespace Query.Call

variable {left right : Context} {call : Call}

/-- What the call reads besides its value is the same in both contexts: what stands at its
reference path, or the time if it is an age without one. -/
structure SeesAlike (left right : Context) (call : Call) : Prop where
  reference (hoperator : call.operator = .age ∨ call.operator = .date) {path : String}
    (hpath : Dates.reference? call.argument = some path) :
    left.root.lookupPath? path = right.root.lookupPath? path
  now (hoperator : call.operator = .age) (hpath : Dates.reference? call.argument = none) :
    left.now = right.now

theorem SeesAlike.of_not_namesReference (hreference : ¬call.NamesReference)
    (hage : call.operator = .age → (Dates.reference? call.argument).isSome = true) :
    call.SeesAlike left right where
  reference hoperator _ hpath := absurd ⟨hoperator, by rw [hpath]; rfl⟩ hreference
  now hoperator hpath := by
    have hsome := hage hoperator
    rw [hpath] at hsome
    cases hsome

theorem SeesAlike.of_operator_ne_age (hroot : left.root = right.root)
    (hage : call.operator ≠ .age) : call.SeesAlike left right where
  reference _ _ _ := by rw [hroot]
  now hoperator := absurd hoperator hage

end Query.Call

namespace Context

open Calendar

variable {left right : Context} {call : Call}

/-- A component of a date has nothing to do with the time it is asked for at. -/
theorem stamp_date_eq (hoperator : call.operator = .date) (unit : DateUnit) (now later : Moment)
    (value : Option Json) :
    Dates.stamp call unit now value = Dates.stamp call unit later value := by
  simp only [Dates.stamp, hoperator, ↓reduceIte]

theorem evaluateDates_eq_of_date (hoperator : call.operator = .date)
    (hreference : Dates.reference? call.argument = none) (base : Option Json) :
    Dates.evaluate left call base = Dates.evaluate right call base := by
  have hstamp := fun unit => stamp_date_eq hoperator unit left.now right.now
  simp only [Dates.evaluate, Dates.referenceMoment, hreference, ok_bind, hstamp]

theorem referenceMoment_eq_of_lookupPath?_eq {path : String}
    (hpath : Dates.reference? call.argument = some path)
    (hlookup : left.root.lookupPath? path = right.root.lookupPath? path) :
    Dates.referenceMoment left call = Dates.referenceMoment right call := by
  simp only [Dates.referenceMoment, hpath, hlookup]

variable [Regex.Engine]

theorem apply_eq_of_seesAlike (hcall : call.SeesAlike left right) (base : Option Json) :
    Operators.apply left call base = Operators.apply right call base := by
  cases hreference : Dates.reference? call.argument with
  | some path =>
      refine apply_congr (fun hoperator => ?_) base
      exact referenceMoment_eq_of_lookupPath?_eq hreference (hcall.reference hoperator hreference)
  | none =>
      by_cases hdate : call.operator = .date
      · simp only [Operators.apply, hdate]
        exact evaluateDates_eq_of_date hdate hreference base
      · refine apply_congr (fun hoperator => ?_) base
        have hage := hoperator.resolve_right hdate
        exact referenceMoment_eq_of_reference?_eq_none (hcall.now hage hreference) hreference

theorem walkFrom_eq_of_seesAlike {segments : List Segment}
    (hcalls : ∀ call, .call call ∈ segments → call.SeesAlike left right) (current : Option Json) :
    left.walkFrom current segments = right.walkFrom current segments :=
  walkFrom_congr (fun call hmem => apply_eq_of_seesAlike (hcalls call hmem)) current

end Context

/-! ### Values along keys -/

namespace Json

/-- Following the keys from object to object, both values are the same at the last key, or before
it, or neither has a member to follow. -/
inductive SameAlong : List String → Json → Json → Prop where
  | same (keys : List String) (value : Json) : SameAlong keys value value
  | member {members members' : List (String × Json)} {key : String} {child child' : Json}
      {keys : List String} (hmember : members.lookup key = some child)
      (hmember' : members'.lookup key = some child') (hchild : SameAlong keys child child') :
      SameAlong (key :: keys) (.obj members) (.obj members')
  | absent {members members' : List (String × Json)} {key : String} {keys : List String}
      (hmember : members.lookup key = none) (hmember' : members'.lookup key = none) :
      SameAlong (key :: keys) (.obj members) (.obj members')

variable {keys : List String} {value value' : Json}

theorem SameAlong.isArray_eq (hsame : SameAlong keys value value') :
    value.isArray = value'.isArray := by
  cases hsame <;> rfl

theorem SameAlong.isNull_eq (hsame : SameAlong keys value value') :
    value.isNull = value'.isNull := by
  cases hsame <;> rfl

theorem SameAlong.lookup?_eq (hsame : SameAlong keys value value') (rest : List String) :
    value.lookup? (keys ++ rest) = value'.lookup? (keys ++ rest) := by
  induction hsame with
  | same => rfl
  | member hmember hmember' hchild ih =>
      simp only [List.cons_append, lookup?, child?, hmember, hmember', Option.bind_some, ih]
  | absent hmember hmember' =>
      simp only [List.cons_append, lookup?, child?, hmember, hmember', Option.bind_none]

end Json

namespace Context

variable {left right : Context} {keys : List String} {value value' : Json} {rest : List Segment}

theorem lead_eq_of_sameAlong (hsame : Json.SameAlong keys value value') (taken : Nat) :
    lead value taken (keys.map .key ++ rest) = lead value' taken (keys.map .key ++ rest) := by
  induction hsame generalizing taken with
  | same => rfl
  | member hmember hmember' hchild ih =>
      simp only [List.map_cons, List.cons_append, lead, Json.isArray, Bool.false_eq_true,
        ↓reduceIte, Json.member?, hmember, hmember', ih]
  | absent hmember hmember' =>
      simp only [List.map_cons, List.cons_append, lead, Json.isArray, Bool.false_eq_true,
        ↓reduceIte, Json.member?, hmember, hmember']

/-- The look-ahead only asks whether the member is there and whether it is a sequence. -/
theorem checkMember_eq_bind (key : String) (next : Option Segment)
    (harray : value.isArray = value'.isArray) (hnull : value.isNull = value'.isNull) :
    checkMember key next (some value') =
      checkMember key next (some value) >>= fun _ => .ok (some value') := by
  unfold checkMember
  simp only [Option.any_some, Option.all_some, harray, hnull]
  split
  · split
    · rfl
    split <;> rfl
  · split <;> rfl
  · rfl

theorem call_mem_keys_append {call : Call} :
    .call call ∈ keys.map Segment.key ++ rest ↔ .call call ∈ rest := by
  simp

section Engine

variable [Regex.Engine]

theorem walkFrom_eq_of_sameAlong
    (hcalls : ∀ call, .call call ∈ rest → call.SeesAlike left right)
    (hsame : Json.SameAlong keys value value') :
    left.walkFrom (some value) (keys.map .key ++ rest) =
      right.walkFrom (some value') (keys.map .key ++ rest) := by
  induction hsame with
  | same =>
      exact walkFrom_eq_of_seesAlike (fun call hmem => hcalls call (call_mem_keys_append.mp hmem)) _
  | @member members members' key child child' keys hmember hmember' hchild ih =>
      -- both members pass the look-ahead or neither does, and with the same failure
      have hleft := checkMember_eq_bind key (keys.map Segment.key ++ rest).head?
        (rfl : child.isArray = child.isArray) rfl
      have hright := checkMember_eq_bind key (keys.map Segment.key ++ rest).head?
        hchild.isArray_eq hchild.isNull_eq
      simp only [List.map_cons, List.cons_append, walkFrom, stepKey, Json.member?, hmember,
        hmember']
      rw [hright, hleft]
      simp only [bind_assoc, ok_bind, ih]
  | absent hmember hmember' =>
      simp only [List.map_cons, List.cons_append, walkFrom, stepKey, Json.member?, hmember,
        hmember']
      refine congrArg _ (funext fun found => walkFrom_eq_of_seesAlike (fun call hmem => ?_) found)
      exact hcalls call (call_mem_keys_append.mp hmem)

/-! ### Queries -/

/-- The keys that the path starts with, and all of its calls, see the same in both contexts. -/
def PathAlike (left right : Context) (path : String) : Prop :=
  ∀ segments, parseSegments path = .ok segments →
    (∃ keys rest, segments = keys.map .key ++ rest ∧
      Json.SameAlong keys left.root right.root) ∧
    ∀ call, .call call ∈ segments → call.SeesAlike left right

variable {path query : String}

theorem evaluatePath_eq_of_pathAlike (halike : PathAlike left right path) :
    left.evaluatePath path = right.evaluatePath path := by
  cases hparse : parseSegments path with
  | error cause => simp only [evaluatePath, hparse, ofExcept_error, error_bind]
  | ok segments =>
      obtain ⟨⟨keys, rest, rfl, hsame⟩, hcalls⟩ := halike segments hparse
      have hwalk := walkFrom_eq_of_sameAlong
        (fun call hmem => hcalls call (call_mem_keys_append.mpr hmem)) hsame
      have hkeys : (keys.map Segment.key ++ rest).filterMap Segment.key? =
          keys ++ rest.filterMap Segment.key? := by
        rw [List.filterMap_append, List.filterMap_map]
        exact congrArg (· ++ _) (List.filterMap_some)
      simp only [evaluatePath, hparse, ofExcept_ok, ok_bind, walk, hwalk, hkeys,
        hsame.lookup?_eq]

theorem broadcastItem_eq_of_seesAlike
    (hcalls : ∀ call, .call call ∈ rest → call.SeesAlike left right) (item : Json) :
    left.broadcastItem rest item = right.broadcastItem rest item := by
  simp only [broadcastItem, walk, walkFrom_eq_of_seesAlike hcalls]

theorem broadcast_eq_of_pathAlike (halike : PathAlike left right path) :
    left.broadcast path = right.broadcast path := by
  cases hparse : parseSegments path with
  | error cause => simp only [broadcast, hparse, ofExcept_error, error_bind]
  | ok segments =>
      obtain ⟨⟨keys, rest, rfl, hsame⟩, hcalls⟩ := halike segments hparse
      simp only [broadcast, hparse, ofExcept_ok, ok_bind, lead_eq_of_sameAlong hsame]
      cases hlead : lead right.root 0 (keys.map Segment.key ++ rest) with
      | error failure => rfl
      | ok found =>
          obtain ⟨followed, hsegments, -⟩ := exists_keys_of_lead hlead
          have hitem : left.broadcastItem found.rest = right.broadcastItem found.rest := by
            refine funext (broadcastItem_eq_of_seesAlike fun call hmem => hcalls call ?_)
            rw [hsegments]
            exact List.mem_append_right _ hmem
          simp only [ok_bind, hitem]

theorem itemValue_eq_of_pathAlike
    (halike : parseNumber? path.toList = none → PathAlike left right path) :
    left.itemValue path = right.itemValue path := by
  unfold itemValue
  cases hliteral : parseNumber? path.toList with
  | some x => rfl
  | none =>
      dsimp only
      rw [evaluatePath_eq_of_pathAlike (halike hliteral)]

theorem aggregate_eq_of_pathAlike {kind : Aggregate} {body : String}
    (hform : parseForm query = .ok (.combinator kind body))
    (halike : ∀ path, IsPathOf query path → PathAlike left right path) :
    left.aggregate kind body = right.aggregate kind body := by
  cases hitems : parseItems body with
  | error cause => simp only [aggregate, hitems, ofExcept_error, error_bind]
  | ok items =>
      have hvalues : items.mapM left.itemValue = items.mapM right.itemValue := by
        refine mapM_congr fun item hmem => itemValue_eq_of_pathAlike fun hliteral => ?_
        exact halike item (isPathOf_item hform hitems hmem hliteral)
      simp only [aggregate, hitems, ofExcept_ok, ok_bind, hvalues]

theorem attempt_eq_of_pathAlike
    (halike : ∀ path, IsPathOf query path → PathAlike left right path) :
    left.attempt query = right.attempt query := by
  cases hform : parseForm query with
  | error cause => simp only [attempt, hform, ofExcept_error, error_bind]
  | ok form =>
      simp only [attempt, hform, ofExcept_ok, ok_bind]
      cases form with
      | combinator kind body => exact aggregate_eq_of_pathAlike hform halike
      | broadcast body => exact broadcast_eq_of_pathAlike (halike _ (isPathOf_broadcast hform))
      | path body => exact evaluatePath_eq_of_pathAlike (halike _ (isPathOf_path hform))

theorem query_eq_of_pathAlike
    (halike : ∀ path, IsPathOf query path → PathAlike left right path) :
    left.query query = right.query query := by
  rw [query_eq_evaluate, query_eq_evaluate, evaluate, evaluate, attempt_eq_of_pathAlike halike]

theorem navigator_walk_eq_of_seesAlike {segments : List Segment}
    (hcalls : ∀ call, .call call ∈ segments → call.SeesAlike left right) (start : Json) :
    (Navigator.mk left query).walk start segments =
      (Navigator.mk right query).walk start segments := by
  rw [Navigator.walk, Navigator.walk, Navigator.walkFrom_eq, Navigator.walkFrom_eq,
    walkFrom_eq_of_seesAlike hcalls]

/-- A walk is the same in any two documents and at any two times that its calls see alike, so in all
of them if no call names a reference and no age lacks one. A query without an age is answered the
same at any time. Any query is answered the same in two documents that are alike along the keys that
its paths start with and at the references that its calls name, also at two times unless an age
names no reference. -/
theorem query_sees (query : String) :
    (∀ (segments : List Segment) (start : Json) (left right : Context),
      (∀ call, .call call ∈ segments → ¬call.NamesReference ∧
        (call.operator = .age → (Dates.reference? call.argument).isSome = true)) →
      (Navigator.mk left query).walk start segments =
        (Navigator.mk right query).walk start segments) ∧
    (∀ (segments : List Segment) (start : Json) (left right : Context),
      (∀ call, .call call ∈ segments → call.SeesAlike left right) →
      (Navigator.mk left query).walk start segments =
        (Navigator.mk right query).walk start segments) ∧
    (∀ (root : Json) (now later : Calendar.Moment),
      (∀ path segments call, IsPathOf query path → parseSegments path = .ok segments →
        .call call ∈ segments → call.operator ≠ .age) →
      (Context.mk root now).query query = (Context.mk root later).query query) ∧
    ∀ left right : Context, (∀ path, IsPathOf query path → PathAlike left right path) →
      left.query query = right.query query := by
  refine ⟨fun segments start left right hcalls => ?_, fun segments start left right hcalls => ?_,
    fun root now later hage => ?_, fun left right => query_eq_of_pathAlike⟩
  · refine navigator_walk_eq_of_seesAlike (fun call hmem => ?_) start
    exact .of_not_namesReference (hcalls call hmem).1 (hcalls call hmem).2
  · exact navigator_walk_eq_of_seesAlike hcalls start
  · refine query_eq_of_pathAlike fun path hpath segments hparse => ⟨?_, fun call hmem => ?_⟩
    · exact ⟨[], segments, rfl, .same [] root⟩
    · exact .of_operator_ne_age rfl (hage path segments call hpath hparse hmem)

end Engine

open scoped Regex.Standard

/-- A walk to a count in two documents, the year of a date at two times, and an age that names its
reference in two documents at two times. -/
theorem query_sees_count_date_age :
    let count : Call := ⟨.count, "", "count()"⟩
    let left : Context :=
      ⟨.obj [("a", .str "2020-05-17"), ("r", .str "2021-05-17"), ("z", .null)], ⟨0, 0⟩⟩
    let right : Context :=
      ⟨.obj [("y", .arr []), ("r", .str "2021-05-17"), ("a", .str "2020-05-17")], ⟨7, 0⟩⟩
    (Navigator.mk left "q").walk (.obj [("b", .arr [])]) [.key "b", .call count] =
        (Navigator.mk right "q").walk (.obj [("b", .arr [])]) [.key "b", .call count] ∧
      (Context.mk left.root ⟨0, 0⟩).query "a.date(YY)" =
        (Context.mk left.root ⟨7, 0⟩).query "a.date(YY)" ∧
      left.query "a.age(YY,r)" = right.query "a.age(YY,r)" := by
  intro count left right
  refine ⟨(query_sees "q").1 _ _ left right ?_, (query_sees _).2.2.1 left.root ⟨0, 0⟩ ⟨7, 0⟩ ?_,
    (query_sees _).2.2.2 left right ?_⟩
  · intro call hmem
    obtain rfl : call = count := by simpa using hmem
    decide
  · intro path segments call hpath hparse hmem
    obtain rfl := eq_of_isPathOf_path rfl hpath
    obtain rfl : segments = [.key "a", .call ⟨.date, "YY", "date(YY)"⟩] :=
      Except.ok.inj (hparse.symm.trans rfl)
    obtain rfl : call = ⟨.date, "YY", "date(YY)"⟩ := by simpa using hmem
    decide
  · intro path hpath segments hparse
    obtain rfl := eq_of_isPathOf_path rfl hpath
    obtain rfl : segments = [.key "a", .call ⟨.age, "YY,r", "age(YY,r)"⟩] :=
      Except.ok.inj (hparse.symm.trans rfl)
    refine ⟨⟨["a"], [.call _], rfl, .member rfl rfl (.same _ _)⟩, fun call hmem => ?_⟩
    obtain rfl : call = ⟨.age, "YY,r", "age(YY,r)"⟩ := by simpa using hmem
    have hreference : Dates.reference? "YY,r" = some "r" := rfl
    refine ⟨fun _ _ hpath => ?_, fun _ hpath => ?_⟩
    · rw [hreference] at hpath
      cases hpath
      rfl
    · rw [hreference] at hpath
      cases hpath

end Context

end DotQuery

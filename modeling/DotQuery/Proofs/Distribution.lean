import DotQuery.Proofs.LeadingKeys

/-!
# Operators that distribute over a sequence

Mapping, filtering and both operators on dates answer for each element by itself, once their
arguments have been checked. A chain of them over a sequence gives the concatenation of what it
gives on its elements, and fails where one of them does.
-/

namespace DotQuery

open Query Attempt

namespace Query.Operator

/-- The operator answers for each element of a sequence by itself. -/
def isElementwise : Operator → Bool
  | map | filter | age | date => true
  | _ => false

end Query.Operator

namespace Sequence

theorem flattenOne_append (first second : List Json) :
    flattenOne (first ++ second) = flattenOne first ++ flattenOne second :=
  List.flatMap_append

theorem flattenOne_map_arr (results : List (List Json)) :
    flattenOne (results.map .arr) = results.flatten := by
  induction results with
  | nil => rfl
  | cons result rest ih =>
      have hcons : flattenOne (Json.arr result :: rest.map .arr) =
          result ++ flattenOne (rest.map .arr) := List.flatMap_cons
      rw [List.map_cons, hcons, ih, List.flatten_cons]

end Sequence

/-- On a sequence that is cut in two the operation succeeds if it does on both parts, and the
results are joined. -/
def Distributes (operation : Json → Attempt Json) : Prop :=
  ∀ first second value, operation (.arr (first ++ second)) = .ok value ↔
    ∃ left right, operation (.arr first) = .ok (.arr left) ∧
      operation (.arr second) = .ok (.arr right) ∧ value = .arr (left ++ right)

namespace Distributes

variable {operation next : Json → Attempt Json} {items : List Json} {value : Json}

theorem eq_arr (hdistributes : Distributes operation)
    (hvalue : operation (.arr items) = .ok value) :
    ∃ result, value = .arr result := by
  rw [← List.append_nil items, hdistributes] at hvalue
  obtain ⟨left, right, -, -, rfl⟩ := hvalue
  exact ⟨left ++ right, rfl⟩

theorem ok : Distributes .ok := by
  intro first second value
  constructor
  · intro hvalue
    exact ⟨first, second, rfl, rfl, (Except.ok.inj hvalue).symm⟩
  · rintro ⟨left, right, hleft, hright, rfl⟩
    cases hleft
    cases hright
    rfl

theorem bind (hoperation : Distributes operation) (hnext : Distributes next) :
    Distributes fun value => operation value >>= next := by
  intro first second value
  simp only [bind_eq_ok_iff]
  constructor
  · rintro ⟨between, hbetween, hvalue⟩
    obtain ⟨left, right, hleft, hright, rfl⟩ := (hoperation _ _ _).mp hbetween
    obtain ⟨left', right', hleft', hright', rfl⟩ := (hnext _ _ _).mp hvalue
    exact ⟨left', right', ⟨_, hleft, hleft'⟩, ⟨_, hright, hright'⟩, rfl⟩
  · rintro ⟨left', right', ⟨between, hbetween, hleft'⟩, ⟨between', hbetween', hright'⟩, rfl⟩
    obtain ⟨left, rfl⟩ := hoperation.eq_arr hbetween
    obtain ⟨right, rfl⟩ := hoperation.eq_arr hbetween'
    exact ⟨.arr (left ++ right), (hoperation _ _ _).mpr ⟨left, right, hbetween, hbetween', rfl⟩,
      (hnext _ _ _).mpr ⟨left', right', hleft', hright', rfl⟩⟩

/-- Arguments are checked first, then each element is answered by itself. -/
theorem each {α : Type} (check : Attempt α) (step : α → Json → Attempt Json)
    (join : α → List Json → List Json)
    (hjoin : ∀ a first second, join a (first ++ second) = join a first ++ join a second)
    (hoperation : ∀ items, operation (.arr items) =
      check >>= fun a => items.mapM (step a) >>= fun values => .ok (.arr (join a values))) :
    Distributes operation := by
  intro first second value
  cases check with
  | error failure => simp [hoperation]
  | ok a =>
      simp only [hoperation, ok_bind, List.mapM_append, bind_assoc, bind_eq_ok_iff,
        Except.ok.injEq, Json.arr.injEq]
      constructor
      · rintro ⟨left, hleft, right, hright, joined, hjoined, rfl⟩
        cases hjoined
        exact ⟨_, _, ⟨left, hleft, rfl⟩, ⟨right, hright, rfl⟩, by rw [hjoin]⟩
      · rintro ⟨_, _, ⟨left, hleft, rfl⟩, ⟨right, hright, rfl⟩, rfl⟩
        exact ⟨left, hleft, right, hright, left ++ right, rfl, by rw [hjoin]⟩

/-- A sequence that is not empty gives what its elements give one by one, all in one sequence. -/
theorem eq_ok_iff (hdistributes : Distributes operation) (hitems : items ≠ []) :
    operation (.arr items) = .ok value ↔
      ∃ results : List (List Json),
        List.Forall₂ (fun item result => operation (.arr [item]) = .ok (.arr result))
          items results ∧
        value = .arr results.flatten := by
  induction items generalizing value with
  | nil => exact absurd rfl hitems
  | cons item rest ih =>
      cases rest with
      | nil =>
          constructor
          · intro hvalue
            obtain ⟨result, rfl⟩ := hdistributes.eq_arr hvalue
            exact ⟨[result], .cons hvalue .nil, by simp⟩
          · rintro ⟨results, hresults, rfl⟩
            cases hresults with
            | cons hitem hnil =>
                cases hnil
                simpa using hitem
      | cons follower rest =>
          rw [← List.singleton_append, hdistributes]
          constructor
          · rintro ⟨left, right, hleft, hright, rfl⟩
            obtain ⟨results, hresults, hflat⟩ := (ih (List.cons_ne_nil _ _)).mp hright
            cases hflat
            exact ⟨left :: results, .cons hleft hresults, by simp⟩
          · rintro ⟨results, hresults, rfl⟩
            cases hresults with
            | @cons _ result _ results hitem hrest =>
                exact ⟨result, results.flatten, hitem,
                  (ih (List.cons_ne_nil _ _)).mpr ⟨results, hrest, rfl⟩, by simp⟩

/-- Whatever the elements give one by one are sequences. -/
theorem mapM_eq_ok_iff (hdistributes : Distributes operation) {values : List Json} :
    items.mapM (fun item => operation (.arr [item])) = .ok values ↔
      ∃ results : List (List Json), values = results.map .arr ∧
        List.Forall₂ (fun item result => operation (.arr [item]) = .ok (.arr result))
          items results := by
  rw [Attempt.mapM_eq_ok_iff]
  constructor
  · intro hvalues
    induction hvalues with
    | nil => exact ⟨[], rfl, .nil⟩
    | cons hitem _ ih =>
        obtain ⟨results, rfl, hresults⟩ := ih
        obtain ⟨result, rfl⟩ := hdistributes.eq_arr hitem
        exact ⟨result :: results, rfl, .cons hitem hresults⟩
  · rintro ⟨results, rfl, hresults⟩
    exact List.forall₂_map_right_iff.mpr hresults

end Distributes

namespace Context

variable (ctx : Context) {call : Call} {calls : List Call}

/-! ### The operators -/

theorem distributes_map (call : Call) :
    Distributes fun value => Operators.map call (some value) := by
  refine Distributes.each (.ok call.trimmedArgument)
    (fun key item => Attempt.ofOption (.noField key call.raw) (item.member? key))
    (fun _ => Sequence.flattenOne) (fun _ => Sequence.flattenOne_append) fun items => ?_
  rfl

theorem distributes_filter (call : Call) :
    Distributes fun value => Operators.filter call (some value) := by
  refine Distributes.each (Attempt.ofExcept (parseEquator call.argument))
    (fun _ item => .ok item) (fun equator => List.filter (Comparison.keeps equator))
    (fun _ => List.filter_append) fun items => ?_
  simp only [mapM_ok]
  rfl

theorem distributes_dates (call : Call) :
    Distributes fun value => Dates.evaluate ctx call (some value) := by
  refine Distributes.each
    (do
      let unit ← Attempt.ofOption (.unknownDateUnit call.raw) (Dates.unit? call.argument)
      let now ← Dates.referenceMoment ctx call
      return (unit, now))
    (fun (unit, now) item => Dates.stamp call unit now (some item))
    (fun _ values => values) (fun _ _ _ => rfl) fun items => ?_
  simp only [Dates.evaluate, bind_assoc, pure_bind]
  rfl

section Engine

variable [Regex.Engine]

theorem distributes_stepCall (hcall : call.operator.isElementwise = true) :
    Distributes fun value => ctx.stepCall call (some value) := by
  intro first second value
  simp only [stepCall_arr, Operators.apply]
  cases hoperator : call.operator with
  | map => exact distributes_map call first second value
  | filter => exact distributes_filter call first second value
  | age => exact distributes_dates ctx call first second value
  | date => exact distributes_dates ctx call first second value
  | _ => simp [hoperator, Operator.isElementwise] at hcall

/-- Chains distribute because each of their operators does. -/
theorem distributes_walk (hcalls : ∀ call ∈ calls, call.operator.isElementwise = true) :
    Distributes fun value => ctx.walk value (calls.map .call) := by
  induction calls with
  | nil => exact .ok
  | cons call rest ih =>
      rw [List.forall_mem_cons] at hcalls
      exact (ctx.distributes_stepCall hcalls.1).bind (ih hcalls.2)

/-! ### Chains over a sequence -/

/-- What a chain of calls makes of each item by itself. -/
def ElementResults (ctx : Context) (calls : List Call) (items : List Json)
    (results : List (List Json)) : Prop :=
  List.Forall₂
    (fun item result => ctx.walk (.arr [item]) (calls.map .call) = .ok (.arr result))
    items results

variable {body : String} {keys : List String} {items : List Json}

theorem broadcastItem_eq_walk (hcalls : calls ≠ []) :
    ctx.broadcastItem (calls.map .call) =
      fun item => ctx.walk (.arr [item]) (calls.map .call) := by
  have hrest : (calls.map Segment.call).isEmpty = false := by simpa using hcalls
  funext item
  rw [broadcastItem, hrest, if_neg Bool.false_ne_true]

theorem broadcast_eq_ok_iff
    (hparse : parseSegments body = .ok (keys.map .key ++ calls.map .call))
    (hcalls : calls ≠ []) (helementwise : ∀ call ∈ calls, call.operator.isElementwise = true)
    (hleads : ctx.root.LeadsTo keys items) {value : Json} :
    ctx.broadcast body = .ok value ↔
      ∃ results, ctx.ElementResults calls items results ∧ value = .arr (results.map .arr) := by
  rw [ctx.broadcast_eq_mapM hparse hleads, bind_eq_ok_iff, ctx.broadcastItem_eq_walk hcalls]
  simp only [(ctx.distributes_walk helementwise).mapM_eq_ok_iff]
  constructor
  · rintro ⟨_, ⟨results, rfl, hresults⟩, hvalue⟩
    exact ⟨results, hresults, (Except.ok.inj hvalue).symm⟩
  · rintro ⟨results, hresults, rfl⟩
    exact ⟨_, ⟨results, rfl, hresults⟩, rfl⟩

theorem evaluatePath_eq_ok_iff
    (hparse : parseSegments body = .ok (keys.map .key ++ calls.map .call))
    (hcalls : calls ≠ []) (helementwise : ∀ call ∈ calls, call.operator.isElementwise = true)
    (hleads : ctx.root.LeadsTo keys items) (hitems : items ≠ []) {value : Json} :
    ctx.evaluatePath body = .ok value ↔
      ∃ results, ctx.ElementResults calls items results ∧ value = .arr results.flatten := by
  obtain ⟨call, hmem⟩ := List.exists_mem_of_ne_nil calls hcalls
  rw [ctx.evaluatePath_eq_walk hparse ⟨call, by simp [hmem]⟩,
    (ctx.agree_walk_of_leadsTo hleads _).ok_iff]
  exact (ctx.distributes_walk helementwise).eq_ok_iff hitems

/-- A chain of element-wise operators answers for a sequence that is not empty with the answers for
its elements, joined in order, and it answers whenever they all do. -/
theorem evaluatePath_eq_flattenOne_broadcast
    (hparse : parseSegments body = .ok (keys.map .key ++ calls.map .call))
    (hcalls : calls ≠ []) (helementwise : ∀ call ∈ calls, call.operator.isElementwise = true)
    (hleads : ctx.root.LeadsTo keys items) (hitems : items ≠ []) :
    ((∃ value, ctx.evaluatePath body = .ok value) ↔ ∃ value, ctx.broadcast body = .ok value) ∧
    ∀ value, ctx.broadcast body = .ok value →
      ∃ results : List (List Json), value = .arr (results.map .arr) ∧
        ctx.evaluatePath body = .ok (.arr (Sequence.flattenOne (results.map .arr))) ∧
        Sequence.flattenOne (results.map .arr) = results.flatten := by
  have hbroadcast {value} : ctx.broadcast body = .ok value ↔ _ :=
    ctx.broadcast_eq_ok_iff hparse hcalls helementwise hleads
  have hevaluate {value} : ctx.evaluatePath body = .ok value ↔ _ :=
    ctx.evaluatePath_eq_ok_iff hparse hcalls helementwise hleads hitems
  refine ⟨?_, fun value hvalue => ?_⟩
  · constructor
    · rintro ⟨value, hvalue⟩
      obtain ⟨results, hresults, -⟩ := hevaluate.mp hvalue
      exact ⟨_, hbroadcast.mpr ⟨results, hresults, rfl⟩⟩
    · rintro ⟨value, hvalue⟩
      obtain ⟨results, hresults, -⟩ := hbroadcast.mp hvalue
      exact ⟨_, hevaluate.mpr ⟨results, hresults, rfl⟩⟩
  · obtain ⟨results, hresults, rfl⟩ := hbroadcast.mp hvalue
    have hflat := Sequence.flattenOne_map_arr results
    exact ⟨results, rfl, hevaluate.mpr ⟨results, hresults, by rw [hflat]⟩, hflat⟩

end Engine

open scoped Regex.Standard

/-- The first element of two leaves nothing behind the filter, and the second one a single field. -/
theorem evaluatePath_eq_flattenOne_broadcast_filtered :
    ∃ results : List (List Json),
      Json.arr [.arr [], .arr [.obj [("k", .str "u")]]] = .arr (results.map .arr) ∧
        evaluatePath
            ⟨.obj [("a", .arr [.obj [("x", .arr [.obj []])],
              .obj [("x", .obj [("k", .str "u")])]])], ⟨0, 0⟩⟩
            "a.map(x).filter(k=u)" =
          .ok (.arr (Sequence.flattenOne (results.map .arr))) ∧
        Sequence.flattenOne (results.map .arr) = results.flatten := by
  have hparse : parseSegments "a.map(x).filter(k=u)" =
      .ok (["a"].map .key ++
        [⟨.map, "x", "map(x)"⟩, ⟨.filter, "k=u", "filter(k=u)"⟩].map .call) := rfl
  exact (evaluatePath_eq_flattenOne_broadcast _ hparse (List.cons_ne_nil _ _) (by decide)
    (.member rfl (.here _)) (List.cons_ne_nil _ _)).2 _ rfl

end Context

end DotQuery

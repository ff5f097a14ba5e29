import DotQuery.Proofs.Causes
import DotQuery.Proofs.KeyPath
import DotQuery.Proofs.ReferenceClock
import Mathlib.Algebra.Order.BigOperators.Group.List

/-!
# References and queries

A reference is looked up in the document like a path of keys, but its text comes apart at every dot,
also within brackets. So the two mean the same in every document exactly if no key has a dot in it,
and then a call takes the date that the same text has as a query.
-/

namespace DotQuery

open Calendar Query Attempt

/-! ### Documents along a path -/

namespace Json

variable {leaf value : Json} {key name : String} {keys path : List String}

/-- Objects of one member each, one in the other, and the leaf behind the last key. -/
def nest (leaf : Json) : List String → Json
  | [] => leaf
  | key :: rest => .obj [(key, nest leaf rest)]

theorem child?_nest_eq_some_iff :
    (nest leaf (key :: path)).child? name = some value ↔ name = key ∧ value = nest leaf path := by
  rw [nest, child?, List.lookup_cons]
  by_cases hname : name = key
  · simp [hname, eq_comm]
  · have hbeq : (name == key) = false := beq_false_of_ne hname
    simp [hname, hbeq]

theorem lookup?_nest (leaf : Json) (path : List String) :
    (nest leaf path).lookup? path = some leaf := by
  induction path with
  | nil => rfl
  | cons key rest ih =>
      exact Option.bind_eq_some_iff.mpr ⟨_, child?_nest_eq_some_iff.mpr ⟨rfl, rfl⟩, ih⟩

theorem exists_members_of_lookup?_nest (hfew : keys.length < path.length)
    (hvalue : (nest leaf path).lookup? keys = some value) : ∃ members, value = .obj members := by
  induction keys generalizing path with
  | nil =>
      cases path with
      | nil => exact absurd hfew (Nat.lt_irrefl 0)
      | cons key rest =>
          cases hvalue
          exact ⟨_, rfl⟩
  | cons name keys ih =>
      cases path with
      | nil => exact absurd hfew (Nat.not_lt_zero _)
      | cons key rest =>
          obtain ⟨child, hchild, hrest⟩ := Option.bind_eq_some_iff.mp hvalue
          obtain ⟨-, rfl⟩ := child?_nest_eq_some_iff.mp hchild
          exact ih (Nat.lt_of_succ_lt_succ hfew) hrest

end Json

/-! ### Where a path comes apart -/

namespace Query

variable {path : String} {keys : List String} {segments : List Segment}

/-- The keys of a path as they come apart at all its dots. -/
def dottedKeys (path : String) : List String :=
  (Text.fields '.' path.toList).map String.ofList

theorem flatMap_dottedKeys_eq_self (hdots : ∀ key ∈ keys, '.' ∉ key.toList) :
    keys.flatMap dottedKeys = keys := by
  have hsingle : ∀ key ∈ keys, dottedKeys key = [key] := by
    intro key hmem
    rw [dottedKeys, Text.fields, Text.separate_of_not_mem (hdots key hmem), List.map_singleton,
      String.ofList_toList]
  rw [List.flatMap_congr hsingle, List.flatMap_singleton']

theorem length_dottedKeys_pos (path : String) : 0 < (dottedKeys path).length := by
  rw [dottedKeys, List.length_map, Text.fields]
  exact Nat.succ_pos _

theorem length_lt_length_flatMap_dottedKeys {key : String} (hmem : key ∈ keys)
    (hdot : '.' ∈ key.toList) : keys.length < (keys.flatMap dottedKeys).length := by
  have hmore : 1 < (dottedKeys key).length := by
    rw [dottedKeys, List.length_map]
    exact Text.one_lt_length_fields hdot
  calc keys.length = (keys.map fun _ => 1).sum := by simp
    _ < (keys.map fun name => (dottedKeys name).length).sum :=
        List.sum_lt_sum _ _ (fun name _ => length_dottedKeys_pos name) ⟨key, hmem, hmore⟩
    _ = (keys.flatMap dottedKeys).length := by rw [List.length_flatMap]

theorem dottedKeys_eq_flatMap_text (hparse : parseSegments path = .ok segments) :
    dottedKeys path = segments.flatMap fun segment => dottedKeys segment.text := by
  obtain ⟨hsplit, -⟩ := parseSegments_eq_ok_iff.mp hparse
  rw [dottedKeys, ← hsplit.join, Text.fields_intercalate hsplit.ne_nil, List.flatMap_map,
    List.map_flatMap]
  rfl

variable (hparse : parseSegments path = .ok (keys.map .key))
include hparse

theorem dottedKeys_eq_flatMap : dottedKeys path = keys.flatMap dottedKeys := by
  rw [dottedKeys_eq_flatMap_text hparse, List.flatMap_map]
  rfl

theorem dottedKeys_eq (hdots : ∀ key ∈ keys, '.' ∉ key.toList) : dottedKeys path = keys := by
  rw [dottedKeys_eq_flatMap hparse, flatMap_dottedKeys_eq_self hdots]

theorem length_lt_length_dottedKeys {key : String} (hmem : key ∈ keys) (hdot : '.' ∈ key.toList) :
    keys.length < (dottedKeys path).length := by
  rw [dottedKeys_eq_flatMap hparse]
  exact length_lt_length_flatMap_dottedKeys hmem hdot

end Query

/-! ### The time that a reference gives -/

namespace Dates

variable {cause other : Cause} {value : Option Json}

theorem instantOf_eq_fail_iff :
    instantOf cause value = .error (.error other) ↔
      other = cause ∧ ∀ v, value = some v → Instant.ofJson? v = .ok none := by
  cases value with
  | none => simp [instantOf, Attempt.fail, eq_comm]
  | some v =>
      simp only [instantOf, Option.map_some, Option.some.injEq, forall_eq']
      rcases Instant.ofJson? v with ⟨⟩ | (_ | t) <;> simp [Attempt.fail, eq_comm]

end Dates

namespace Context

variable {ctx : Context} {call : Call} {path : String} {keys : List String}

/-- The time that a path gives to a call by its value as a query, which must be a date. -/
def queriedMoment [Regex.Engine] (ctx : Context) (call : Call) (path : String) :
    Attempt Moment := do
  let t ← Dates.instantOf (.invalidReference call.raw path) (ctx.evaluatePath path).toOption
  return t.toMoment

section Paths

theorem referenceMoment_eq_bind (hreference : Dates.reference? call.argument = some path)
    (ctx : Context) :
    Dates.referenceMoment ctx call = (do
      let t ← Dates.instantOf (.invalidReference call.raw path)
        (ctx.root.lookup? (dottedKeys path))
      return t.toMoment) := by
  simp only [Dates.referenceMoment, hreference]
  rfl

variable (hparse : parseSegments path = .ok (keys.map .key))
include hparse

variable [Regex.Engine]

theorem toOption_evaluatePath (ctx : Context) :
    (ctx.evaluatePath path).toOption = ctx.root.lookup? keys := by
  rw [ctx.evaluatePath_eq_lookup? hparse]
  cases ctx.root.lookup? keys <;> rfl

theorem referenceMoment_eq_queriedMoment_iff
    (hreference : Dates.reference? call.argument = some path) :
    (∀ ctx, Dates.referenceMoment ctx call = queriedMoment ctx call path) ↔
      ∀ key ∈ keys, '.' ∉ key.toList := by
  constructor
  · -- a date behind the pieces of the text is out of reach for its keys, which are fewer
    intro hsame key hmem hdot
    have hfew := length_lt_length_dottedKeys hparse hmem hdot
    let date : Json := .str "2000-01-01"
    have hmoment := hsame ⟨.nest date (dottedKeys path), ⟨0, 0⟩⟩
    rw [referenceMoment_eq_bind hreference, queriedMoment, toOption_evaluatePath hparse,
      Json.lookup?_nest] at hmoment
    have hfail : Dates.instantOf (.invalidReference call.raw path)
        ((Json.nest date (dottedKeys path)).lookup? keys) =
          .error (.error (.invalidReference call.raw path)) := by
      refine Dates.instantOf_eq_fail_iff.mpr ⟨rfl, fun value hvalue => ?_⟩
      obtain ⟨members, rfl⟩ := Json.exists_members_of_lookup?_nest hfew hvalue
      rfl
    rw [hfail] at hmoment
    cases hmoment
  · intro hdots ctx
    rw [referenceMoment_eq_bind hreference, queriedMoment, toOption_evaluatePath hparse,
      dottedKeys_eq hparse hdots]

end Paths

/-! ### Calls with a reference -/

section Calls

variable {base : Option Json} {unit : DateUnit}

theorem dates_eq_invalidReference_iff (hunit : Dates.unit? call.argument = some unit) :
    Dates.evaluate ctx call base = .error (.error (.invalidReference call.raw path)) ↔
      Dates.referenceMoment ctx call = .error (.error (.invalidReference call.raw path)) := by
  unfold Dates.evaluate
  rw [hunit, ofOption_some, ok_bind, bind_eq_error_iff, or_iff_left]
  -- once the time is known, a value is refused as a date of its own
  rintro ⟨now, -, hstamps⟩
  have hfails := failsFor_stamps call base (rfl : (Cause.invalidDate call.raw) = _) unit now
  cases hfails _ hstamps

variable [Regex.Engine]

theorem apply_eq_dates (hoperator : call.operator = .age ∨ call.operator = .date) :
    Operators.apply ctx call base = Dates.evaluate ctx call base := by
  rcases hoperator with hage | hdate
  · rw [Operators.apply, hage]
  · rw [Operators.apply, hdate]

theorem queriedMoment_eq_invalidReference_iff (hparse : parseSegments path = .ok (keys.map .key)) :
    ctx.queriedMoment call path = .error (.error (.invalidReference call.raw path)) ↔
      (∃ cause, ctx.evaluatePath path = .error (.error cause)) ∨
        ∃ value, ctx.evaluatePath path = .ok value ∧ Instant.ofJson? value = .ok none := by
  have hbind : ctx.queriedMoment call path = .error (.error (.invalidReference call.raw path)) ↔
      Dates.instantOf (.invalidReference call.raw path) (ctx.evaluatePath path).toOption =
        .error (.error (.invalidReference call.raw path)) := by
    rw [queriedMoment, bind_eq_error_iff, or_iff_left]
    rintro ⟨t, -, ⟨⟩⟩
  rw [hbind, Dates.instantOf_eq_fail_iff, and_iff_right rfl]
  rw [ctx.evaluatePath_eq_lookup? hparse]
  cases ctx.root.lookup? keys with
  | none => simp [Except.toOption]
  | some value => simp [Except.toOption]

end Calls

/-- A reference means the query that it is written as exactly if no dot stands in one of its keys.
Then a call takes for its time the date that the query has for its value, and refuses the reference
if the query has no value or one that is no date. -/
theorem reference_means_query [Regex.Engine] {fmt reference : String}
    (hargument : call.argument = fmt ++ "," ++ reference) (hfmt : ',' ∉ fmt.toList)
    (hreference : ',' ∉ reference.toList) (hpath : Text.trimmed reference = path) (hne : path ≠ "")
    (hparse : parseSegments path = .ok (keys.map .key)) :
    ((∀ ctx, Dates.referenceMoment ctx call = queriedMoment ctx call path) ↔
      ∀ key ∈ keys, '.' ∉ key.toList) ∧
    ((∀ key ∈ keys, '.' ∉ key.toList) → call.operator = .age ∨ call.operator = .date →
      ∀ unit, Dates.unit? fmt = some unit → ∀ (ctx : Context) (base : Option Json),
        (∀ value t, ctx.evaluatePath path = .ok value → Instant.ofJson? value = .ok (some t) →
          ∀ bare : Call, bare.operator = call.operator → bare.argument = fmt →
            Agree (Operators.apply ctx call base)
              (Operators.apply ⟨ctx.root, t.toMoment⟩ bare base)) ∧
        (Operators.apply ctx call base = .error (.error (.invalidReference call.raw path)) ↔
          (∃ cause, ctx.evaluatePath path = .error (.error cause)) ∨
            ∃ value, ctx.evaluatePath path = .ok value ∧ Instant.ofJson? value = .ok none)) := by
  subst hpath
  have hnamed : Dates.reference? call.argument = some (Text.trimmed reference) := by
    rw [hargument, Dates.reference?_append hfmt hreference hne]
  have hsame := referenceMoment_eq_queriedMoment_iff hparse hnamed
  refine ⟨hsame, fun hdots hoperator unit hunit ctx base => ⟨?_, ?_⟩⟩
  · intro value t hvalue hdate bare hbare hfmt'
    have hmoment : Dates.referenceMoment ctx call = .ok t.toMoment := by
      have hinstant : Dates.instantOf (.invalidReference call.raw (Text.trimmed reference))
          (some value) = .ok t := by
        rw [Dates.instantOf, Option.map_some, hdate]
      rw [hsame.mpr hdots ctx, queriedMoment, hvalue]
      change Dates.instantOf _ (some value) >>= _ = _
      rw [hinstant]
      rfl
    have hnone : Dates.reference? bare.argument = none := by
      rw [hfmt', Dates.reference?_of_not_mem hfmt]
    have hbareMoment : Dates.referenceMoment ⟨ctx.root, t.toMoment⟩ bare = .ok t.toMoment := by
      rw [Dates.referenceMoment, hnone]
    have hunits : Dates.unit? call.argument = Dates.unit? bare.argument := by
      rw [hargument, hfmt', Dates.unit?_append hfmt]
    rw [apply_eq_dates hoperator, apply_eq_dates (hbare ▸ hoperator)]
    exact agree_dates hbare.symm hunits hmoment hbareMoment (fun _ _ _ => rfl) base
  · have hread : Dates.unit? call.argument = some unit := by
      rw [hargument, Dates.unit?_append hfmt, hunit]
    rw [apply_eq_dates hoperator, dates_eq_invalidReference_iff hread, hsame.mpr hdots ctx,
      queriedMoment_eq_invalidReference_iff hparse]

open scoped Regex.Standard

/-- Brackets without a dot in a key: an age measured to the date behind it, and a refusal where no
date is. -/
theorem reference_means_query_brackets :
    let call : Call := ⟨.age, "YY, a[x].b", "age(YY, a[x].b)"⟩
    let ctx : Context := ⟨.obj [("a[x]", .obj [("b", .str "2020-01-01")])], ⟨0, 0⟩⟩
    ∃ t, Instant.ofJson? (.str "2020-01-01") = .ok (some t) ∧
      Agree (Operators.apply ctx call (some (.str "2000-01-01")))
        (Operators.apply ⟨ctx.root, t.toMoment⟩ ⟨.age, "YY", "age(YY)"⟩
          (some (.str "2000-01-01"))) ∧
      Operators.apply ⟨.null, ⟨0, 0⟩⟩ call (some (.str "2000-01-01")) =
        .error (.error (.invalidReference "age(YY, a[x].b)" "a[x].b")) := by
  intro call ctx
  have hargument : call.argument = "YY" ++ "," ++ " a[x].b" := rfl
  have hfmt : ',' ∉ "YY".toList := by decide
  have hreference : ',' ∉ " a[x].b".toList := by decide
  have hpath : Text.trimmed " a[x].b" = "a[x].b" := rfl
  have hparse : parseSegments "a[x].b" = .ok (["a[x]", "b"].map .key) := rfl
  obtain ⟨-, hcalls⟩ :=
    reference_means_query hargument hfmt hreference hpath (by decide) hparse
  have hread := hcalls (by decide) (Or.inl rfl) .years rfl
  refine ⟨_, rfl, (hread ctx _).1 _ _ rfl rfl ⟨.age, "YY", "age(YY)"⟩ rfl rfl, ?_⟩
  exact (hread ⟨.null, ⟨0, 0⟩⟩ _).2.mpr (Or.inl ⟨_, rfl⟩)

/-- A dot in the brackets of a key: the query has a date for its value, to which twenty years have
passed, but as a reference it is refused. -/
theorem reference_splits_within_brackets :
    let ctx : Context := ⟨.obj [("d", .str "2000-01-01"), ("a[x.y]", .str "2020-01-01")], ⟨0, 0⟩⟩
    parseSegments "a[x.y]" = .ok [.key "a[x.y]"] ∧
      ctx.evaluatePath "a[x.y]" = .ok (.str "2020-01-01") ∧
      (∃ t, Instant.ofJson? (.str "2020-01-01") = .ok (some t) ∧
        evaluate ⟨ctx.root, t.toMoment⟩ "d.age(YY)" = .ok (.ofInt 20)) ∧
      ctx.evaluate "d.age(YY, a[x.y])" = .error (.error
        ⟨.invalidReference "age(YY, a[x.y])" "a[x.y]", "d.age(YY, a[x.y])"⟩) :=
  ⟨rfl, rfl, ⟨_, rfl, rfl⟩, rfl⟩

end Context

end DotQuery

import DotQuery.Proofs.Fallback
import DotQuery.Proofs.LeadingKeys
import DotQuery.Proofs.ListQuery
import Mathlib.Order.Bounds.Defs

/-!
# Extremes of a sequence

The least and the greatest number of a sequence and their distance go by the places of its numbers,
so neither their order nor the nulls among them matter, and an extreme is the reading of one of the
numbers. Integers of safe magnitude stand in the order of their places; among them the extremes are
the least and the greatest integer.
-/

namespace DotQuery

open Query Attempt

namespace Number

variable {m n : Number} {i j : Int}

/-- Read in double precision, the one number is not greater than the other. -/
def AtMost (m n : Number) : Prop :=
  (Binary64.compare? m.toBinary64 n.toBinary64).any Ordering.isLE = true

theorem atMost_iff : m.AtMost n ↔ m.toBinary64.place ≤ n.toBinary64.place := by
  rw [AtMost, Binary64.compare?_eq_compare_place (Binary64.isNaN_number m)
    (Binary64.isNaN_number n), Option.any_some, Int.isLE_compare]

theorem Denotes.place_eq (hn : n.Denotes i) (hsafe : i.natAbs ≤ Json.maxSafeInteger) :
    n.toBinary64.place = i * Binary64.one := by
  obtain ⟨x, hx, hscaled⟩ := hn.exists_scaled_eq (Nat.lt_succ_of_le hsafe)
  rw [hx]
  exact hscaled

theorem Denotes.le_of_atMost (hm : m.Denotes i) (hn : n.Denotes j)
    (hi : i.natAbs ≤ Json.maxSafeInteger) (hj : j.natAbs ≤ Json.maxSafeInteger)
    (hle : m.AtMost n) : i ≤ j := by
  rw [atMost_iff, hm.place_eq hi, hn.place_eq hj] at hle
  exact le_of_mul_le_mul_right hle (Int.natCast_pos.mpr Binary64.one_pos)

theorem Denotes.ofBinary64_eq (hn : n.Denotes i) (hsafe : i.natAbs ≤ Json.maxSafeInteger) :
    Json.ofBinary64 n.toBinary64 = .ofInt i := by
  obtain ⟨x, hx, hscaled⟩ := hn.exists_scaled_eq (Nat.lt_succ_of_le hsafe)
  rw [hx, Binary64.ofBinary64_of_scaled hscaled (Nat.lt_succ_of_le hsafe)]

end Number

/-! ### The number that is selected -/

namespace Query.Aggregate

/-- The operator that combines the numbers of a sequence in the same way. -/
def operator : Aggregate → Operator
  | max => .max
  | min => .min
  | range => .range

/-- The number is in the sequence and is exceeded by none of its numbers, or exceeds none. -/
inductive Selects (items : List Json) (n : Number) : Aggregate → Prop where
  | max (hmem : .num n ∈ items) (hgreatest : ∀ m, .num m ∈ items → m.AtMost n) :
      Selects items n .max
  | min (hmem : .num n ∈ items) (hleast : ∀ m, .num m ∈ items → n.AtMost m) :
      Selects items n .min

/-- The integers that stand in the sequence, in either kind of number. -/
def integers (items : List Json) : Set Int :=
  {i | ∃ n, .num n ∈ items ∧ n.Denotes i}

/-- The integer is the greatest of the sequence, or the least. -/
inductive SelectsInteger (items : List Json) (i : Int) : Aggregate → Prop where
  | max (hgreatest : IsGreatest (integers items) i) : SelectsInteger items i .max
  | min (hleast : IsLeast (integers items) i) : SelectsInteger items i .min

variable {kind : Aggregate} {items : List Json} {n : Number} {found : Binary64}

theorem mem_filterMap_number?_iff {value : Binary64} :
    value ∈ items.filterMap Json.number? ↔ ∃ n, .num n ∈ items ∧ n.toBinary64 = value := by
  rw [List.mem_filterMap]
  constructor
  · rintro ⟨item, hmem, hitem⟩
    obtain ⟨n, rfl, hn⟩ := Navigator.number?_eq_some_iff.mp hitem
    exact ⟨n, hmem, hn⟩
  · rintro ⟨n, hmem, rfl⟩
    exact ⟨_, hmem, rfl⟩

theorem isNaN_of_mem_filterMap_number? (items : List Json) :
    ∀ value ∈ items.filterMap Json.number?, value.isNaN = false := by
  intro value hvalue
  obtain ⟨n, -, rfl⟩ := mem_filterMap_number?_iff.mp hvalue
  exact Binary64.isNaN_number n

theorem exists_selects (hkind : kind ≠ .range)
    (hfound : Context.combine kind (items.filterMap Json.number?) = some found) :
    ∃ n, kind.Selects items n ∧ n.toBinary64 = found := by
  have hplace {m : Number} (hmem : .num m ∈ items) :
      m.toBinary64.place ∈ (items.filterMap Json.number?).map Binary64.place :=
    List.mem_map_of_mem (mem_filterMap_number?_iff.mpr ⟨m, hmem, rfl⟩)
  cases kind with
  | range => exact absurd rfl hkind
  | max =>
      have hgreatest : Statistics.greatest? (items.filterMap Json.number?) = some found := hfound
      obtain ⟨n, hmem, rfl⟩ :=
        mem_filterMap_number?_iff.mp (Statistics.mem_of_greatest?_eq_some hgreatest)
      obtain ⟨-, hmax⟩ := Statistics.place_greatest? (isNaN_of_mem_filterMap_number? items)
      rw [hgreatest, Option.map_some, eq_comm, List.max?_eq_some_iff] at hmax
      refine ⟨n, .max hmem fun m hm => ?_, rfl⟩
      exact Number.atMost_iff.mpr (hmax.2 _ (hplace hm))
  | min =>
      have hleast : Statistics.least? (items.filterMap Json.number?) = some found := hfound
      obtain ⟨n, hmem, rfl⟩ :=
        mem_filterMap_number?_iff.mp (Statistics.mem_of_least?_eq_some hleast)
      obtain ⟨-, hmin⟩ := Statistics.place_least? (isNaN_of_mem_filterMap_number? items)
      rw [hleast, Option.map_some, eq_comm, List.min?_eq_some_iff] at hmin
      refine ⟨n, .min hmem fun m hm => ?_, rfl⟩
      exact Number.atMost_iff.mpr (hmin.2 _ (hplace hm))

theorem Selects.exists_selectsInteger (hselects : kind.Selects items n)
    (hintegers : ∀ m, .num m ∈ items → ∃ i, m.Denotes i ∧ i.natAbs ≤ Json.maxSafeInteger) :
    ∃ i, kind.SelectsInteger items i ∧ Json.ofBinary64 n.toBinary64 = .ofInt i := by
  -- a number denotes one integer, so the bound is one on each that it denotes
  have hsafe {m : Number} {j : Int} (hmem : .num m ∈ items) (hj : m.Denotes j) :
      j.natAbs ≤ Json.maxSafeInteger := by
    obtain ⟨i, hi, hsafe⟩ := hintegers m hmem
    rwa [hj.eq hi]
  cases hselects with
  | max hmem hgreatest =>
      obtain ⟨i, hi, hbound⟩ := hintegers n hmem
      refine ⟨i, .max ⟨⟨n, hmem, hi⟩, ?_⟩, hi.ofBinary64_eq hbound⟩
      rintro j ⟨m, hm, hj⟩
      exact hj.le_of_atMost hi (hsafe hm hj) hbound (hgreatest m hm)
  | min hmem hleast =>
      obtain ⟨i, hi, hbound⟩ := hintegers n hmem
      refine ⟨i, .min ⟨⟨n, hmem, hi⟩, ?_⟩, hi.ofBinary64_eq hbound⟩
      rintro j ⟨m, hm, hj⟩
      exact hi.le_of_atMost hj hbound (hsafe hm hj) (hleast m hm)

end Query.Aggregate

/-! ### Sequences of one content -/

namespace Sequence

variable {items others : List Json}

/-- Every item is a number or null. -/
def IsNumeric (items : List Json) : Prop :=
  ∀ item ∈ items, item = .null ∨ ∃ n, item = .num n

/-- The sequences hold the same items, in any order and with any nulls between them. -/
def SameApartFromNulls (items others : List Json) : Prop :=
  (items.filter fun item => !item.isNull).Perm (others.filter fun item => !item.isNull)

theorem filterMap_number?_filter (items : List Json) :
    (items.filter fun item => !item.isNull).filterMap Json.number? =
      items.filterMap Json.number? := by
  rw [List.filterMap_filter]
  congr 1
  funext item
  cases item <;> rfl

theorem SameApartFromNulls.perm_numbers (hsame : SameApartFromNulls items others) :
    (items.filterMap Json.number?).Perm (others.filterMap Json.number?) := by
  rw [← filterMap_number?_filter items, ← filterMap_number?_filter others]
  exact hsame.filterMap Json.number?

theorem SameApartFromNulls.isNumeric (hsame : SameApartFromNulls items others)
    (hitems : IsNumeric items) : IsNumeric others := by
  intro item hmem
  cases hnull : item.isNull with
  | true =>
      cases item with
      | null => exact Or.inl rfl
      | _ => cases hnull
  | false =>
      have hother : item ∈ others.filter fun item => !item.isNull :=
        List.mem_filter.mpr ⟨hmem, by rw [hnull]; rfl⟩
      exact hitems item (List.mem_filter.mp (hsame.mem_iff.mpr hother)).1

theorem isNumeric_of_numbers?_eq_some {values : List Binary64}
    (hvalues : Statistics.numbers? items = some values) : IsNumeric items := by
  induction items generalizing values with
  | nil => exact fun _ hmem => absurd hmem List.not_mem_nil
  | cons item rest ih =>
      refine List.forall_mem_cons.mpr ?_
      unfold Statistics.numbers? at hvalues ih
      cases item with
      | null => exact ⟨Or.inl rfl, ih hvalues⟩
      | num n =>
          rw [List.filter_cons_of_pos rfl, List.mapM_cons] at hvalues
          obtain ⟨_, -, hrest⟩ := Option.bind_eq_some_iff.mp hvalues
          obtain ⟨others, hothers, -⟩ := Option.bind_eq_some_iff.mp hrest
          exact ⟨Or.inr ⟨n, rfl⟩, ih hothers⟩
      | _ =>
          rw [List.filter_cons_of_pos rfl, List.mapM_cons] at hvalues
          cases hvalues

end Sequence

/-! ### Asking for an extreme -/

namespace Operators

variable {ctx : Context} {kind : Aggregate} {items : List Json} {call : Call}
  (hoperator : call.operator = kind.operator)
include hoperator

variable [Regex.Engine]

theorem apply_eq_combine (hblank : Text.isAllBlank call.argument.toList = true)
    (hitems : Sequence.IsNumeric items) :
    apply ctx call (some (.arr items)) = .ok (.ofBinary64
      ((Context.combine kind (items.filterMap Json.number?)).getD .positiveZero)) := by
  have hfallback : call.FallsBackTo .positiveZero := .zero hblank
  cases kind with
  | max =>
      have hmax : call.operator = .max := hoperator
      rw [apply_eq_answer hitems hfallback ctx (by simp [hmax]), hmax]
      rfl
  | min =>
      have hmin : call.operator = .min := hoperator
      rw [apply_eq_answer hitems hfallback ctx (by simp [hmin]), hmin]
      rfl
  | range =>
      have hrange : call.operator = .range := hoperator
      rw [apply, hrange]
      dsimp only
      rw [numbers_eq_ok hitems]
      rfl

theorem exists_apply_eq_bind (ctx : Context) (base : Option Json) :
    ∃ next : List Binary64 → Attempt Json, apply ctx call base = numbers call base >>= next := by
  unfold apply
  rw [hoperator]
  cases kind with
  | max => exact ⟨_, rfl⟩
  | min => exact ⟨_, rfl⟩
  | range => exact ⟨_, rfl⟩

theorem apply_of_not_isNumeric (hitems : ¬ Sequence.IsNumeric items) :
    apply ctx call (some (.arr items)) = .error (.error (.notAllNumbers call.raw)) := by
  have hnone : Statistics.numbers? items = none := by
    rw [Option.eq_none_iff_forall_ne_some]
    intro values hvalues
    exact hitems (Sequence.isNumeric_of_numbers?_eq_some hvalues)
  have hnumbers : numbers call (some (.arr items)) =
      .error (.error (.notAllNumbers call.raw)) := by
    change ofOption _ (Statistics.numbers? items) = _
    rw [hnone, ofOption_none]
  obtain ⟨next, hnext⟩ := exists_apply_eq_bind hoperator ctx (some (.arr items))
  rw [hnext, hnumbers, error_bind]

end Operators

namespace Context

variable {ctx : Context} {kind : Aggregate} {items : List Json} {text : String}

theorem exists_combine_eq_some (kind : Aggregate) {n : Number} (hmem : .num n ∈ items) :
    ∃ found, combine kind (items.filterMap Json.number?) = some found := by
  have hvalues : items.filterMap Json.number? ≠ [] :=
    List.ne_nil_of_mem (Aggregate.mem_filterMap_number?_iff.mpr ⟨n, hmem, rfl⟩)
  obtain ⟨value, rest, hcons⟩ := List.exists_cons_of_ne_nil hvalues
  rw [hcons]
  cases kind <;> exact ⟨_, rfl⟩

section Engine

variable [Regex.Engine]

/-- The text is a path to a sequence of these items, with a call of the aggregate's operator at its
end that has no argument. -/
inductive Asks (ctx : Context) (kind : Aggregate) (items : List Json) (text : String) : Prop where
  | intro (segments : List Segment) (call : Call)
      (hparse : parseSegments text = .ok (segments ++ [.call call]))
      (hitems : ctx.walk ctx.root segments = .ok (.arr items))
      (hoperator : call.operator = kind.operator)
      (hblank : Text.isAllBlank call.argument.toList = true)

theorem Asks.agree_apply (hasks : ctx.Asks kind items text) :
    ∃ call : Call, call.operator = kind.operator ∧
      Text.isAllBlank call.argument.toList = true ∧
      Agree (ctx.evaluatePath text) (Operators.apply ctx call (some (.arr items))) := by
  obtain ⟨segments, call, hparse, hitems, hoperator, hblank⟩ := hasks
  refine ⟨call, hoperator, hblank, ?_⟩
  have hagree := ctx.agree_walk_concat_call ctx.root segments call
  rw [ctx.walk_eq_ok_iff.mp hitems, ok_bind, stepCall_arr] at hagree
  rwa [ctx.evaluatePath_eq_walk hparse ⟨call, by simp⟩]

theorem Asks.evaluatePath_eq (hasks : ctx.Asks kind items text)
    (hitems : Sequence.IsNumeric items) :
    ctx.evaluatePath text =
      .ok (.ofBinary64 ((combine kind (items.filterMap Json.number?)).getD .positiveZero)) := by
  obtain ⟨call, hoperator, hblank, hagree⟩ := hasks.agree_apply
  exact hagree.ok_iff.mpr (Operators.apply_eq_combine hoperator hblank hitems)

/-- The extremes of numbers and nulls depend on the numbers alone, in any order. Among numbers they
are the reading of one that none exceeds, or that exceeds none, and among integers of safe magnitude
the greatest and the least integer. Any other item is a type error. -/
theorem extremes_of_sequence (hasks : ctx.Asks kind items text) :
    (Sequence.IsNumeric items → ∃ value, ctx.evaluatePath text = .ok value ∧
      (∀ (ctx' : Context) others text', ctx'.Asks kind others text' →
        Sequence.SameApartFromNulls items others → ctx'.evaluatePath text' = .ok value) ∧
      (kind ≠ .range → (∃ n, .num n ∈ items) →
        (∃ n, kind.Selects items n ∧
          combine kind (items.filterMap Json.number?) = some n.toBinary64 ∧
          value = .ofBinary64 n.toBinary64) ∧
        ((∀ n, .num n ∈ items → ∃ i, n.Denotes i ∧ i.natAbs ≤ Json.maxSafeInteger) →
          ∃ i, kind.SelectsInteger items i ∧ value = .ofInt i))) ∧
    (¬ Sequence.IsNumeric items →
      ∃ cause, ctx.evaluatePath text = .error (.error cause) ∧ cause.kind = .type) := by
  refine ⟨fun hitems => ⟨_, hasks.evaluatePath_eq hitems, ?_, ?_⟩, fun hitems => ?_⟩
  · intro ctx' others text' hasks' hsame
    rw [hasks'.evaluatePath_eq (hsame.isNumeric hitems),
      ofBinary64_combine_eq_of_perm kind (Aggregate.isNaN_of_mem_filterMap_number? items)
        hsame.perm_numbers]
  · rintro hkind ⟨_, hmem⟩
    obtain ⟨found, hfound⟩ := exists_combine_eq_some kind hmem
    obtain ⟨n, hselects, rfl⟩ := Aggregate.exists_selects hkind hfound
    rw [hfound, Option.getD_some]
    exact ⟨⟨n, hselects, rfl, rfl⟩, hselects.exists_selectsInteger⟩
  · obtain ⟨call, hoperator, -, hagree⟩ := hasks.agree_apply
    exact hagree.symm.exists_cause (Operators.apply_of_not_isNumeric hoperator hitems)

end Engine

open scoped Regex.Standard

/-- The minimum of an object's member, the same one of a shuffled sequence that is the whole
document, and the range of a sequence with a text in it. -/
theorem extremes_of_sequence_shuffled :
    let items : List Json := [.ofInt 3, .null, .ofInt (-2)]
    let ctx : Context := ⟨.obj [("xs", .arr items)], ⟨0, 0⟩⟩
    let shuffled : Context := ⟨.arr [.ofInt (-2), .ofInt 3], ⟨0, 0⟩⟩
    let mixed : Context := ⟨.arr [.ofInt 3, .str "4"], ⟨0, 0⟩⟩
    (∃ i, Aggregate.SelectsInteger items i .min ∧ ctx.evaluatePath "xs.min()" = .ok (.ofInt i) ∧
      shuffled.evaluatePath "min( )" = .ok (.ofInt i)) ∧
    ∃ cause, mixed.evaluatePath "range()" = .error (.error cause) ∧ cause.kind = .type := by
  intro items ctx shuffled mixed
  have hasks : ctx.Asks .min items "xs.min()" :=
    .intro [.key "xs"] ⟨.min, "", "min()"⟩ rfl rfl rfl rfl
  have hshuffled : shuffled.Asks .min [.ofInt (-2), .ofInt 3] "min( )" :=
    .intro [] ⟨.min, " ", "min( )"⟩ rfl rfl rfl rfl
  have hmixed : mixed.Asks .range [.ofInt 3, .str "4"] "range()" :=
    .intro [] ⟨.range, "", "range()"⟩ rfl rfl rfl rfl
  have hnumeric : Sequence.IsNumeric items := by
    simp [items, Sequence.IsNumeric, Json.ofInt]
  have hsame : Sequence.SameApartFromNulls items [.ofInt (-2), .ofInt 3] := .swap _ _ []
  have hintegers : ∀ n, .num n ∈ items → ∃ i, n.Denotes i ∧ i.natAbs ≤ Json.maxSafeInteger := by
    intro n hmem
    simp only [items, List.mem_cons, Json.ofInt, Json.num.injEq, reduceCtorEq, false_or,
      List.not_mem_nil, or_false] at hmem
    rcases hmem with rfl | rfl
    · exact ⟨3, by simp [Number.Denotes, Number.ofInt], by decide⟩
    · exact ⟨-2, by simp [Number.Denotes, Number.ofInt], by decide⟩
  obtain ⟨value, hvalue, hothers, hamong⟩ := (extremes_of_sequence hasks).1 hnumeric
  obtain ⟨-, hsafe⟩ := hamong (by decide) ⟨_, List.mem_cons_self⟩
  obtain ⟨i, hi, rfl⟩ := hsafe hintegers
  refine ⟨⟨i, hi, hvalue, hothers shuffled _ _ hshuffled hsame⟩, ?_⟩
  refine (extremes_of_sequence hmixed).2 fun hnumeric => ?_
  rcases hnumeric (.str "4") (by simp) with hnull | ⟨n, hn⟩
  · cases hnull
  · cases hn

end Context

end DotQuery

import DotQuery.Evaluation.Combinator
import DotQuery.Proofs.Hundredths

/-!
# Numeric answers

What is computed from numbers is a number again unless a sum or the distance of two extremes leaves
the finite range, and then the answer is null. Rounding to hundredths stays in the range if the
hundredfold does: one half more or less and the floor move by at most one, and the point moves back.
-/

namespace DotQuery

open Query

namespace Binary64

variable {a b : Binary64} {x y : Finite64} {values : List Binary64}

def IsFinite (a : Binary64) : Prop :=
  ∃ x, a = .finite x

instance (a : Binary64) : Decidable a.IsFinite :=
  decidable_of_iff (a.finite?.isSome = true) (by cases a <;> simp [finite?, IsFinite])

theorem isFinite_iff_exists_value? : a.IsFinite ↔ ∃ v, a.value? = some v := by
  cases a <;> simp [IsFinite, value?]

theorem not_isFinite_nan : ¬ Binary64.nan.IsFinite := by
  rintro ⟨x, hx⟩
  cases hx

theorem not_isFinite_infinite (negative : Bool) : ¬ (Binary64.infinite negative).IsFinite := by
  rintro ⟨x, hx⟩
  cases hx

theorem isFinite_number (n : Number) : n.toBinary64.IsFinite := by
  cases n with
  | int n hword =>
      unfold Json.IsWord at hword
      exact exists_ofInt_eq_finite (by omega)
  | float x => exact ⟨x, rfl⟩

/-! ### Rounding -/

theorem isFinite_roundToHundredths (hshift : ((Binary64.finite x).shiftDecimal 2).IsFinite) :
    (Binary64.finite x).roundToHundredths.IsFinite := by
  obtain ⟨y, hy⟩ := hshift
  have hs : rounded? x.hundredfold = some y.value := by
    have hvalue := value?_shiftDecimal x 2
    rw [hy] at hvalue
    rw [Finite64.hundredfold, mul_comm]
    exact hvalue.symm
  obtain ⟨v, hv⟩ := exists_rounded?_add_half y
  obtain ⟨b, -, rfl⟩ := value?_eq_some_iff.mp hv
  obtain ⟨w, hw⟩ := exists_rounded?_of_near (q := ⌊b.value⌋) (x := b) (by
    have hlow := Int.floor_le b.value
    have hhigh := (Int.lt_floor_add_one b.value).le
    exact abs_le.mpr (by constructor <;> linarith))
  obtain ⟨z, -, hround⟩ := exists_roundToHundredths hs hv hw
  obtain ⟨u, hu⟩ := exists_rounded?_of_abs_le z.rounded?_written (q := z.written / 100) (by
    rw [abs_div, abs_of_pos (by norm_num : (0 : ℚ) < 100)]
    exact div_le_self (abs_nonneg _) (by norm_num))
  exact isFinite_iff_exists_value?.mpr ⟨u, hround.trans hu⟩

theorem not_isFinite_roundToHundredths (ha : ¬ a.IsFinite) : ¬ a.roundToHundredths.IsFinite := by
  obtain ⟨half, hhalf⟩ := exists_half_eq
  cases a with
  | nan =>
      rw [roundToHundredths, hhalf]
      exact not_isFinite_nan
  | infinite negative =>
      rw [roundToHundredths, hhalf]
      exact not_isFinite_infinite negative
  | finite x => exact absurd ⟨x, rfl⟩ ha

/-! ### Operations on finite numbers -/

theorem isFinite_divideBy_iff {count : Nat} (hcount : 0 < count) :
    (a.divideBy count).IsFinite ↔ a.IsFinite := by
  cases a with
  | nan => rfl
  | infinite negative => rfl
  | finite x =>
      refine iff_of_true ?_ ⟨x, rfl⟩
      have hle : nearest x.units count ≤ x.units := by
        calc nearest x.units count ≤ nearest x.units 1 :=
              nearest_le_nearest hcount Nat.one_pos (Nat.mul_le_mul_left _ hcount)
          _ = x.units := nearest_of_spacing_dvd x.representable.1
      rw [divideBy, ofRatio, dif_pos (hle.trans_lt x.representable.2)]
      exact ⟨_, rfl⟩

theorem isFinite_getD_iff {found : Option Binary64} :
    (found.getD .positiveZero).IsFinite ↔ ¬ ∃ a, found = some a ∧ ¬ a.IsFinite := by
  cases found with
  | none => exact iff_of_true ⟨_, rfl⟩ (by simp)
  | some a => simp

end Binary64

namespace Statistics

open Binary64

variable {values : List Binary64} {found : Binary64}

theorem isFinite_of_mapM_number? {items : List Json}
    (hvalues : items.mapM Json.number? = some values) :
    ∀ value ∈ values, value.IsFinite := by
  induction items generalizing values with
  | nil =>
      cases hvalues
      exact fun _ hmem => absurd hmem List.not_mem_nil
  | cons item rest ih =>
      simp only [List.mapM_cons, bind, Option.bind_eq_some_iff, pure, Option.some.injEq] at hvalues
      obtain ⟨value, hvalue, others, hothers, rfl⟩ := hvalues
      rw [List.forall_mem_cons]
      refine ⟨?_, ih hothers⟩
      cases item <;> cases hvalue
      exact isFinite_number _

theorem isFinite_of_numbers? {items : List Json} (hvalues : numbers? items = some values) :
    ∀ value ∈ values, value.IsFinite :=
  isFinite_of_mapM_number? hvalues

end Statistics

namespace Json

open Binary64

variable {a : Binary64}

/-- A number, but null if what it is made of has left the finite range. -/
def IsNumberUnless (value : Json) (overflows : Prop) : Prop :=
  (overflows → value = .null) ∧ (¬ overflows → ∃ n, value = .num n)

theorem isNumberUnless_ofBinary64 (a : Binary64) :
    (ofBinary64 a).IsNumberUnless (¬ a.IsFinite) := by
  cases a with
  | nan => exact ⟨fun _ => rfl, fun hfinite => absurd not_isFinite_nan hfinite⟩
  | infinite negative =>
      exact ⟨fun _ => rfl, fun hfinite => absurd (not_isFinite_infinite negative) hfinite⟩
  | finite x =>
      refine ⟨fun hinfinite => absurd ⟨x, rfl⟩ hinfinite, fun _ => ?_⟩
      rw [ofBinary64]
      split
      · exact ⟨_, rfl⟩
      · exact ⟨_, rfl⟩

theorem isNumberUnless_ofBinary64_iff {overflows : Prop} (hiff : a.IsFinite ↔ ¬ overflows) :
    (ofBinary64 a).IsNumberUnless overflows := by
  obtain ⟨hnull, hnumber⟩ := isNumberUnless_ofBinary64 a
  refine ⟨fun hoverflows => hnull fun hfinite => hiff.mp hfinite hoverflows, fun hoverflows => ?_⟩
  exact hnumber fun hinfinite => hinfinite (hiff.mpr hoverflows)

end Json

namespace Operators

open Binary64 Statistics Json

variable {ctx : Context} {call : Call} {items : List Json} {value : Json}

/-- A quantity behind the answer has left the finite range: the sum, also where a mean is asked for,
or the distance of the extremes. -/
inductive Overflows (call : Call) (items : List Json) : Prop where
  | sum (hoperator : call.operator = .sum)
      (hsum : ¬ (Sequence.sumBy call.trimmedArgument items).IsFinite)
  | mean {values : List Binary64} (hoperator : call.operator = .mean)
      (hvalues : numbers? items = some values) (hsum : ¬ (Statistics.sum values).IsFinite)
  | range {values : List Binary64} {spread : Binary64} (hoperator : call.operator = .range)
      (hvalues : numbers? items = some values) (hspread : spread? values = some spread)
      (hinfinite : ¬ spread.IsFinite)

/-- What is rounded to hundredths for the answer. -/
inductive Rounds (call : Call) (items : List Json) : Binary64 → Prop where
  | sum (hoperator : call.operator = .sum) :
      Rounds call items (Sequence.sumBy call.trimmedArgument items)
  | mean {values : List Binary64} {mean : Binary64} (hoperator : call.operator = .mean)
      (hvalues : numbers? items = some values) (hmean : mean? values = some mean) :
      Rounds call items mean

theorem isFinite_fallback {given : Option Binary64} (hgiven : numericDefault call = .ok given) :
    (given.getD .positiveZero).IsFinite := by
  unfold numericDefault at hgiven
  dsimp only at hgiven
  split at hgiven
  · cases hgiven
    exact ⟨_, rfl⟩
  · split at hgiven
    · cases hgiven
      exact ⟨_, rfl⟩
    · cases hgiven

section Calls

variable {values : List Binary64} {fallback : Binary64}

theorem numbers_eq_ok_iff :
    numbers call (some (.arr items)) = .ok values ↔ numbers? items = some values :=
  Attempt.ofOption_eq_ok_iff

theorem overflows_sum_iff (hoperator : call.operator = .sum) :
    Overflows call items ↔ ¬ (Sequence.sumBy call.trimmedArgument items).IsFinite := by
  refine ⟨?_, .sum hoperator⟩
  rintro (⟨-, hsum⟩ | ⟨hmean, -, -⟩ | ⟨hrange, -, -, -⟩)
  · exact hsum
  · cases hoperator.symm.trans hmean
  · cases hoperator.symm.trans hrange

theorem overflows_mean_iff (hoperator : call.operator = .mean)
    (hvalues : numbers? items = some values) :
    Overflows call items ↔ ¬ (Statistics.sum values).IsFinite := by
  refine ⟨?_, .mean hoperator hvalues⟩
  rintro (⟨hsum, -⟩ | ⟨-, hothers, hsum⟩ | ⟨hrange, -, -, -⟩)
  · cases hoperator.symm.trans hsum
  · cases hvalues.symm.trans hothers
    exact hsum
  · cases hoperator.symm.trans hrange

theorem overflows_range_iff (hoperator : call.operator = .range)
    (hvalues : numbers? items = some values) :
    Overflows call items ↔ ∃ spread, spread? values = some spread ∧ ¬ spread.IsFinite := by
  constructor
  · rintro (⟨hsum, -⟩ | ⟨hmean, -, -⟩ | ⟨-, hothers, hspread, hinfinite⟩)
    · cases hoperator.symm.trans hsum
    · cases hoperator.symm.trans hmean
    · cases hvalues.symm.trans hothers
      exact ⟨_, hspread, hinfinite⟩
  · rintro ⟨spread, hspread, hinfinite⟩
    exact .range hoperator hvalues hspread hinfinite

theorem not_overflows (hoperator : call.operator ∈ [.count, .min, .max]) :
    ¬ Overflows call items := by
  rintro (⟨hop, -⟩ | ⟨hop, -, -⟩ | ⟨hop, -, -, -⟩) <;>
    exact absurd hoperator (by rw [hop]; decide)

theorem isZero_eq_false {a : Binary64} (ha : ¬ a.IsFinite) : a.isZero = false := by
  cases a with
  | nan => rfl
  | infinite negative => cases negative <;> rfl
  | finite x => exact absurd ⟨x, rfl⟩ ha

theorem isFinite_roundedMean_iff {mean : Binary64} (hfallback : fallback.IsFinite)
    (hround : mean.IsFinite → mean.roundToHundredths.IsFinite) :
    (roundedMean fallback (some mean)).IsFinite ↔ mean.IsFinite := by
  by_cases hmean : mean.IsFinite
  · refine iff_of_true ?_ hmean
    rw [roundedMean]
    dsimp only
    split_ifs
    · exact ⟨_, rfl⟩
    · exact hfallback
    · exact hround hmean
  · refine iff_of_false ?_ hmean
    have hinfinite := not_isFinite_roundToHundredths hmean
    rw [roundedMean]
    dsimp only
    rw [isZero_eq_false hmean, isZero_eq_false hinfinite]
    exact hinfinite

theorem exists_number_of_isFinite {a : Binary64} (ha : a.IsFinite) : ∃ n, ofBinary64 a = .num n :=
  (isNumberUnless_ofBinary64 a).2 (not_not.mpr ha)

theorem exists_number_of_extremum {find : List Binary64 → Option Binary64}
    (hfind : ∀ values found, find values = some found → found ∈ values)
    (happly : extremum find call (some (.arr items)) = .ok value) : ∃ n, value = .num n := by
  unfold extremum at happly
  obtain ⟨values, hvalues, hnext⟩ := Attempt.bind_eq_ok_iff.mp happly
  split at hnext
  · next found hfound =>
      cases hnext
      exact exists_number_of_isFinite
        (isFinite_of_numbers? (numbers_eq_ok_iff.mp hvalues) found (hfind _ _ hfound))
  · obtain ⟨given, hgiven, hvalue⟩ := Attempt.bind_eq_ok_iff.mp hnext
    cases hvalue
    exact exists_number_of_isFinite (isFinite_fallback hgiven)

theorem isNumberUnless_mean (hoperator : call.operator = .mean)
    (hrounds : ∀ x, Rounds call items (.finite x) → ((Binary64.finite x).shiftDecimal 2).IsFinite)
    (happly : mean call (some (.arr items)) = .ok value) :
    value.IsNumberUnless (Overflows call items) := by
  unfold mean at happly
  obtain ⟨values, hvalues, hnext⟩ := Attempt.bind_eq_ok_iff.mp happly
  obtain ⟨given, hgiven, hvalue⟩ := Attempt.bind_eq_ok_iff.mp hnext
  cases hvalue
  have hvalues' := numbers_eq_ok_iff.mp hvalues
  have hfallback := isFinite_fallback hgiven
  apply isNumberUnless_ofBinary64_iff
  rw [overflows_mean_iff hoperator hvalues', not_not]
  cases values with
  | nil => exact iff_of_true hfallback ⟨_, rfl⟩
  | cons first rest =>
      have hmean : mean? (first :: rest) =
          some ((Statistics.sum (first :: rest)).divideBy (first :: rest).length) := rfl
      rw [hmean]
      refine (isFinite_roundedMean_iff hfallback ?_).trans
        (isFinite_divideBy_iff (List.length_pos_iff.mpr (List.cons_ne_nil first rest)))
      rintro ⟨x, hx⟩
      rw [hx] at hmean ⊢
      exact isFinite_roundToHundredths (hrounds x (.mean hoperator hvalues' hmean))

theorem isNumberUnless_sum (hoperator : call.operator = .sum)
    (hrounds : ∀ x, Rounds call items (.finite x) → ((Binary64.finite x).shiftDecimal 2).IsFinite) :
    (ofBinary64 (Sequence.sumBy call.trimmedArgument items).roundToHundredths).IsNumberUnless
      (Overflows call items) := by
  apply isNumberUnless_ofBinary64_iff
  rw [overflows_sum_iff hoperator, not_not]
  by_cases hsum : (Sequence.sumBy call.trimmedArgument items).IsFinite
  · refine iff_of_true ?_ hsum
    obtain ⟨x, hx⟩ := hsum
    have hround : Rounds call items (.finite x) := hx ▸ .sum hoperator
    rw [hx]
    exact isFinite_roundToHundredths (hrounds x hround)
  · exact iff_of_false (not_isFinite_roundToHundredths hsum) hsum

theorem isNumberUnless_range (hoperator : call.operator = .range)
    (hvalues : numbers? items = some values) :
    (ofBinary64 ((spread? values).getD .positiveZero)).IsNumberUnless (Overflows call items) := by
  apply isNumberUnless_ofBinary64_iff
  rw [overflows_range_iff hoperator hvalues, isFinite_getD_iff]

end Calls

theorem isNumberUnless_of_apply [Regex.Engine]
    (hoperator : call.operator ∈ [.count, .sum, .mean, .min, .max, .range])
    (hrounds : ∀ x, Rounds call items (.finite x) → ((Binary64.finite x).shiftDecimal 2).IsFinite)
    (happly : apply ctx call (some (.arr items)) = .ok value) :
    value.IsNumberUnless (Overflows call items) := by
  have hsequence : sequence call (some (.arr items)) = .ok items := rfl
  have hnumber (hop : call.operator ∈ [.count, .min, .max]) (hvalue : ∃ n, value = .num n) :
      value.IsNumberUnless (Overflows call items) :=
    ⟨fun hoverflows => absurd hoverflows (not_overflows hop), fun _ => hvalue⟩
  simp only [List.mem_cons, List.not_mem_nil, or_false] at hoperator
  rcases hoperator with hop | hop | hop | hop | hop | hop <;> rw [apply, hop] at happly <;>
    dsimp only at happly
  · rw [hsequence, Attempt.ok_bind] at happly
    cases happly
    exact hnumber (by simp [hop]) ⟨_, rfl⟩
  · rw [hsequence, Attempt.ok_bind] at happly
    cases happly
    exact isNumberUnless_sum hop hrounds
  · exact isNumberUnless_mean hop hrounds happly
  · exact hnumber (by simp [hop])
      (exists_number_of_extremum (fun _ _ => mem_of_least?_eq_some) happly)
  · exact hnumber (by simp [hop])
      (exists_number_of_extremum (fun _ _ => mem_of_greatest?_eq_some) happly)
  · obtain ⟨values, hvalues, hvalue⟩ := Attempt.bind_eq_ok_iff.mp happly
    cases hvalue
    exact isNumberUnless_range hop (numbers_eq_ok_iff.mp hvalues)

end Operators

namespace Context

open Binary64 Statistics Json

variable {ctx : Context} {kind : Query.Aggregate} {body : String} {value : Json}

section Engine

variable [Regex.Engine]

/-- The distance of the extremes of a list has left the finite range. -/
def Overflows (ctx : Context) (kind : Query.Aggregate) (body : String) : Prop :=
  kind = .range ∧ ∃ items values spread, parseItems body = .ok items ∧
    items.mapM ctx.itemValue = .ok values ∧ spread? values = some spread ∧ ¬ spread.IsFinite

theorem isFinite_itemValue {item : String} {number : Binary64}
    (hliteral : ∀ x, parseNumber? item.toList = some x →
      ((Binary64.finite x).shiftDecimal 2).IsFinite)
    (hnumber : ctx.itemValue item = .ok number) : number.IsFinite := by
  unfold itemValue at hnumber
  split at hnumber
  · next x hx =>
      cases hnumber
      exact isFinite_roundToHundredths (hliteral x hx)
  · obtain ⟨found, -, hfound⟩ := Attempt.bind_eq_ok_iff.mp hnumber
    rw [Attempt.ofOption_eq_ok_iff] at hfound
    cases found <;> cases hfound
    exact isFinite_number _

theorem isNumberUnless_of_aggregate
    (hliterals : ∀ items, parseItems body = .ok items → ∀ item ∈ items, ∀ x,
      parseNumber? item.toList = some x → ((Binary64.finite x).shiftDecimal 2).IsFinite)
    (haggregate : aggregate ctx kind body = .ok value) :
    value.IsNumberUnless (Overflows ctx kind body) := by
  unfold aggregate at haggregate
  obtain ⟨items, hitems, hnext⟩ := Attempt.bind_eq_ok_iff.mp haggregate
  obtain ⟨values, hvalues, hvalue⟩ := Attempt.bind_eq_ok_iff.mp hnext
  cases hvalue
  rw [Attempt.ofExcept_eq_ok_iff] at hitems
  have hfinite : ∀ number ∈ values, number.IsFinite :=
    Attempt.forall_mem_of_mapM_eq_ok hvalues fun item hmem _ hnumber =>
      isFinite_itemValue (hliterals items hitems item hmem) hnumber
  have hinside {found : Option Binary64} (hfound : ∀ a, found = some a → a ∈ values) :
      (found.getD .positiveZero).IsFinite :=
    isFinite_getD_iff.mpr fun ⟨a, ha, hinfinite⟩ => hinfinite (hfinite a (hfound a ha))
  apply isNumberUnless_ofBinary64_iff
  cases kind with
  | max => exact iff_of_true (hinside fun _ => mem_of_greatest?_eq_some) fun h => nomatch h.1
  | min => exact iff_of_true (hinside fun _ => mem_of_least?_eq_some) fun h => nomatch h.1
  | range =>
      rw [combine, isFinite_getD_iff, not_iff_not]
      constructor
      · rintro ⟨spread, hspread, hinfinite⟩
        exact ⟨rfl, items, values, spread, hitems, hvalues, hspread, hinfinite⟩
      · rintro ⟨-, items', values', spread, hitems', hvalues', hspread, hinfinite⟩
        cases hitems.symm.trans hitems'
        cases hvalues.symm.trans hvalues'
        exact ⟨spread, hspread, hinfinite⟩

/-- An aggregate of a sequence or of a list is a number, and null exactly if the sum that it is made
of or the distance of its extremes leaves the finite range, as long as the hundredfold of what is
rounded stays in it. -/
theorem numeric_answers (ctx : Context) :
    (∀ (call : Call) (items : List Json) (value : Json),
      call.operator ∈ [.count, .sum, .mean, .min, .max, .range] →
      (∀ x, Operators.Rounds call items (.finite x) →
        ((Binary64.finite x).shiftDecimal 2).IsFinite) →
      Operators.apply ctx call (some (.arr items)) = .ok value →
      value.IsNumberUnless (Operators.Overflows call items)) ∧
    ∀ (kind : Query.Aggregate) (body : String) (value : Json),
      (∀ items, parseItems body = .ok items → ∀ item ∈ items, ∀ x,
        parseNumber? item.toList = some x → ((Binary64.finite x).shiftDecimal 2).IsFinite) →
      ctx.aggregate kind body = .ok value → value.IsNumberUnless (ctx.Overflows kind body) :=
  ⟨fun _ _ _ => Operators.isNumberUnless_of_apply, fun _ _ _ => isNumberUnless_of_aggregate⟩

end Engine

open scoped Regex.Standard

/-- A sum over one field and the maximum of one literal are numbers. -/
theorem numeric_answers_of_three :
    let ctx : Context := ⟨.null, ⟨0, 0⟩⟩
    let call : Call := ⟨.sum, "v", "sum(v)"⟩
    (∃ value n, Operators.apply ctx call (some (.arr [.obj [("v", .ofInt 3)]])) = .ok value ∧
        value = .num n) ∧
      ∃ value n, ctx.aggregate .max "3" = .ok value ∧ value = .num n := by
  intro ctx call
  constructor
  · have hrounds : ∀ x, Operators.Rounds call [.obj [("v", .ofInt 3)]] (.finite x) →
        ((Binary64.finite x).shiftDecimal 2).IsFinite := by
      intro x hround
      generalize Binary64.finite x = sum at hround
      cases hround with
      | sum hoperator => decide +kernel
      | mean hoperator => cases hoperator
    obtain ⟨-, hnumber⟩ := (numeric_answers ctx).1 call [.obj [("v", .ofInt 3)]] _ (by decide)
      hrounds rfl
    have hfinite : ¬ Operators.Overflows call [.obj [("v", .ofInt 3)]] := by
      rw [Operators.overflows_sum_iff rfl, not_not]
      decide +kernel
    obtain ⟨n, hn⟩ := hnumber hfinite
    exact ⟨_, n, rfl, hn⟩
  · obtain ⟨x, hx, hthree⟩ := Option.map_eq_some_iff.mp (by decide +kernel :
      (parseNumber? "3".toList).map Binary64.finite = some (.ofInt 3))
    have hitems : parseItems "3" = .ok ["3"] := rfl
    have hliterals : ∀ items, parseItems "3" = .ok items → ∀ item ∈ items, ∀ y,
        parseNumber? item.toList = some y → ((Binary64.finite y).shiftDecimal 2).IsFinite := by
      intro items heq item hmem y hy
      cases hitems.symm.trans heq
      cases List.mem_singleton.mp hmem
      cases hx.symm.trans hy
      rw [hthree]
      decide +kernel
    have haggregate : ctx.aggregate .max "3" =
        .ok (.ofBinary64 (Binary64.finite x).roundToHundredths) := by
      have hvalue : ctx.itemValue "3" = .ok (Binary64.finite x).roundToHundredths := by
        rw [itemValue, hx]
      have hvalues : ["3"].mapM ctx.itemValue = .ok [(Binary64.finite x).roundToHundredths] :=
        Attempt.mapM_eq_ok_iff.mpr (.cons hvalue .nil)
      rw [aggregate, hitems, Attempt.ofExcept_ok, Attempt.ok_bind, hvalues]
      rfl
    obtain ⟨-, hnumber⟩ := (numeric_answers ctx).2 .max "3" _ hliterals haggregate
    obtain ⟨n, hn⟩ := hnumber fun hoverflows => nomatch hoverflows.1
    exact ⟨_, n, haggregate, hn⟩

/-- The distance of two finite numbers and the sum of two can be infinite, and are null then. -/
theorem range_of_numbers_eq_null :
    let ctx : Context := ⟨.null, ⟨0, 0⟩⟩
    ∃ x : Finite64, Decimal.toBinary64 ⟨false, 17, 307⟩ = .finite x ∧
      Operators.apply ctx ⟨.range, "", "range()"⟩
          (some (.arr [.num (.float x), .num (.float x.negate)])) = .ok .null ∧
      Operators.apply ctx ⟨.sum, "v", "sum(v)"⟩
          (some (.arr [.obj [("v", .num (.float x))], .obj [("v", .num (.float x))]])) =
        .ok .null := by
  intro ctx
  obtain ⟨x, hx, hspread, hsum⟩ : ∃ x : Finite64, Decimal.toBinary64 ⟨false, 17, 307⟩ = .finite x ∧
      spread? [.finite x, .finite x.negate] = some (.infinite false) ∧
      (Statistics.sum [.finite x, .finite x]).roundToHundredths = .infinite false :=
    ⟨⟨false, nearest (17 * 10 ^ 307 * one) 1, spacing_dvd_nearest _ _, by decide +kernel⟩,
      by decide +kernel, by decide +kernel, by decide +kernel⟩
  refine ⟨x, hx, ?_, ?_⟩
  · have hvalues : Operators.numbers ⟨.range, "", "range()"⟩
        (some (.arr [.num (.float x), .num (.float x.negate)])) =
          .ok [.finite x, .finite x.negate] := rfl
    rw [Operators.apply]
    dsimp only
    rw [hvalues, Attempt.ok_bind, hspread]
    rfl
  · have hsequence (items : List Json) :
        Operators.sequence ⟨.sum, "v", "sum(v)"⟩ (some (.arr items)) = .ok items := rfl
    have hfields : Sequence.sumBy (Call.trimmedArgument ⟨.sum, "v", "sum(v)"⟩)
        [.obj [("v", .num (.float x))], .obj [("v", .num (.float x))]] =
          Statistics.sum [.finite x, .finite x] := rfl
    rw [Operators.apply]
    dsimp only
    rw [hsequence, Attempt.ok_bind, hfields, hsum]
    rfl

end Context

end DotQuery

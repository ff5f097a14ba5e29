import DotQuery.Evaluation.Operators
import DotQuery.Proofs.Attempt
import DotQuery.Proofs.Extremes
import DotQuery.Proofs.LongestLiteral
import DotQuery.Proofs.SafeInteger

/-!
# Fallbacks

The argument of a minimum, a maximum or a mean is the answer for a sequence without numbers. Among
numbers it does not matter to an extreme at all. It does matter to a mean that is not zero but
rounds to it, which counts as missing.
-/

namespace DotQuery

open Query

namespace Query.Call

/-- The answer without numbers: the number that the argument starts with, or zero if it is blank. -/
inductive FallsBackTo (call : Call) : Binary64 → Prop where
  | zero (hblank : Text.isAllBlank call.argument.toList = true) : FallsBackTo call .positiveZero
  | number {x : Finite64} (hnumber : StartsWithNumber call.argument.toList x) :
      FallsBackTo call (.finite x)

theorem isEmpty_trimmedArgument_iff {call : Call} :
    call.trimmedArgument.isEmpty = true ↔ Text.isAllBlank call.argument.toList = true := by
  rw [trimmedArgument, Text.trimmed, String.isEmpty_iff, ← String.toList_inj, String.toList_ofList]
  exact Text.trim_eq_nil_iff

end Query.Call

namespace Statistics

/-- The numbers of a sequence have a mean that is not zero, though it is in hundredths. -/
def meanVanishes (values : List Binary64) : Bool :=
  (mean? values).any fun mean => !mean.isZero && mean.roundToHundredths.isZero

variable {items : List Json}

theorem numbers?_eq_some (hitems : ∀ item ∈ items, item = .null ∨ ∃ n, item = .num n) :
    numbers? items = some (items.filterMap Json.number?) := by
  induction items with
  | nil => rfl
  | cons item rest ih =>
      rw [List.forall_mem_cons] at hitems
      obtain ⟨rfl | ⟨n, rfl⟩, hrest⟩ := hitems
      · exact ih hrest
      · have hread := ih hrest
        rw [numbers?] at hread
        rw [numbers?, List.filter_cons_of_pos rfl, List.mapM_cons, hread]
        rfl

end Statistics

namespace Operators

open Statistics

variable {call bare : Call} {fallback : Binary64} {items : List Json}

theorem exists_numericDefault_eq (hcall : call.FallsBackTo fallback) :
    ∃ given, numericDefault call = .ok given ∧ given.getD .positiveZero = fallback := by
  cases hcall with
  | zero hblank =>
      refine ⟨none, ?_, rfl⟩
      rw [numericDefault, if_pos (Call.isEmpty_trimmedArgument_iff.mpr hblank)]
  | @number x hnumber =>
      have hread : parseLeadingNumber? call.trimmedArgument.toList = some x := by
        rw [Call.trimmedArgument, Text.trimmed, String.toList_ofList, parseLeadingNumber?_trim]
        exact parseLeadingNumber?_eq_some_iff.mpr hnumber
      have hne : ¬ call.trimmedArgument.isEmpty = true := by
        intro hempty
        rw [String.isEmpty_iff] at hempty
        rw [hempty] at hread
        cases hread
      refine ⟨some (.finite x), ?_, rfl⟩
      rw [numericDefault, if_neg hne, hread]

/-- What an operator answers to some numbers, or else falls back to. -/
def answer (fallback : Binary64) (values : List Binary64) : Operator → Binary64
  | .min => (least? values).getD fallback
  | .max => (greatest? values).getD fallback
  | _ => roundedMean fallback (mean? values)

theorem answer_nil (fallback : Binary64) (operator : Operator) :
    answer fallback [] operator = fallback := by
  cases operator <;> rfl

section Numbers

variable {values : List Binary64} (hvalues : values ≠ [])
include hvalues

theorem roundedMean_eq (hvanishes : meanVanishes values = false) (fallback other : Binary64) :
    roundedMean fallback (mean? values) = roundedMean other (mean? values) := by
  rw [meanVanishes] at hvanishes
  obtain ⟨mean, hmean⟩ : ∃ mean, mean? values = some mean :=
    ⟨_, if_neg (by rwa [List.isEmpty_iff])⟩
  rw [hmean, Option.any_some, Bool.and_eq_false_imp, Bool.not_eq_true'] at hvanishes
  rw [hmean, roundedMean, roundedMean]
  cases hzero : mean.isZero with
  | true => rfl
  | false => simp [hvanishes hzero]

theorem answer_eq {operator : Operator} (hoperator : operator ∈ [.min, .max, .mean])
    (hvanishes : operator = .mean → meanVanishes values = false) (fallback other : Binary64) :
    answer fallback values operator = answer other values operator := by
  obtain ⟨value, rest, rfl⟩ := List.exists_cons_of_ne_nil hvalues
  simp only [List.mem_cons, List.not_mem_nil, or_false] at hoperator
  rcases hoperator with rfl | rfl | rfl
  · rfl
  · rfl
  · exact roundedMean_eq hvalues (hvanishes rfl) fallback other

end Numbers

theorem answer_mean_eq {values : List Binary64} (hvanishes : meanVanishes values = true)
    (fallback : Binary64) : answer fallback values .mean = fallback := by
  change roundedMean fallback (mean? values) = fallback
  rw [meanVanishes, Option.any_eq_true] at hvanishes
  obtain ⟨mean, hmean, htiny⟩ := hvanishes
  rw [Bool.and_eq_true, Bool.not_eq_true'] at htiny
  simp [hmean, roundedMean, htiny]

section Answers

variable (hitems : ∀ item ∈ items, item = .null ∨ ∃ n, item = .num n)
include hitems

theorem numbers_eq_ok : numbers call (some (.arr items)) = .ok (items.filterMap Json.number?) := by
  have hsequence : sequence call (some (.arr items)) = .ok items := rfl
  rw [numbers, hsequence, Attempt.ok_bind, numbers?_eq_some hitems, Attempt.ofOption_some]

variable (hcall : call.FallsBackTo fallback)
include hcall

theorem extremum_eq_ok (find : List Binary64 → Option Binary64) :
    extremum find call (some (.arr items)) =
      .ok (.ofBinary64 ((find (items.filterMap Json.number?)).getD fallback)) := by
  obtain ⟨given, hgiven, rfl⟩ := exists_numericDefault_eq hcall
  rw [extremum, numbers_eq_ok hitems, Attempt.ok_bind, hgiven]
  cases find (items.filterMap Json.number?) <;> rfl

theorem mean_eq_ok :
    mean call (some (.arr items)) =
      .ok (.ofBinary64 (roundedMean fallback (mean? (items.filterMap Json.number?)))) := by
  obtain ⟨given, hgiven, rfl⟩ := exists_numericDefault_eq hcall
  rw [mean, numbers_eq_ok hitems, Attempt.ok_bind, hgiven]
  rfl

variable [Regex.Engine]

theorem apply_eq_answer (ctx : Context) (hoperator : call.operator ∈ [.min, .max, .mean]) :
    apply ctx call (some (.arr items)) =
      .ok (.ofBinary64 (answer fallback (items.filterMap Json.number?) call.operator)) := by
  simp only [List.mem_cons, List.not_mem_nil, or_false] at hoperator
  rcases hoperator with hmin | hmax | hmean
  · rw [apply, hmin]
    exact extremum_eq_ok hitems hcall least?
  · rw [apply, hmax]
    exact extremum_eq_ok hitems hcall greatest?
  · rw [apply, hmean]
    exact mean_eq_ok hitems hcall

theorem apply_mean_eq (ctx : Context) (hmean : call.operator = .mean)
    (hvanishes : meanVanishes (items.filterMap Json.number?) = true) :
    apply ctx call (some (.arr items)) = .ok (.ofBinary64 fallback) := by
  have hoperator : call.operator ∈ [.min, .max, .mean] := by simp [hmean]
  rw [apply_eq_answer hitems hcall ctx hoperator, hmean, answer_mean_eq hvanishes]

end Answers

/-- Without numbers the answer is the fallback. Among numbers it is the answer to a blank argument,
unless their mean is asked for and vanishes: then the fallback stands for zero. -/
theorem fallback_without_numbers [Regex.Engine] (ctx : Context)
    (hitems : ∀ item ∈ items, item = .null ∨ ∃ n, item = .num n)
    (hoperator : call.operator ∈ [.min, .max, .mean]) (hcall : call.FallsBackTo fallback)
    (hbare : bare.operator = call.operator)
    (hblank : Text.isAllBlank bare.argument.toList = true) :
    ((∀ n, Json.num n ∉ items) →
      apply ctx call (some (.arr items)) = .ok (.ofBinary64 fallback)) ∧
    ((∃ n, Json.num n ∈ items) → ∃ found, apply ctx bare (some (.arr items)) = .ok found ∧
      ((call.operator = .mean → meanVanishes (items.filterMap Json.number?) = false) →
        apply ctx call (some (.arr items)) = .ok found) ∧
      (call.operator = .mean → meanVanishes (items.filterMap Json.number?) = true →
        found = .ofInt 0 ∧ apply ctx call (some (.arr items)) = .ok (.ofBinary64 fallback))) := by
  have hzero : bare.FallsBackTo .positiveZero := .zero hblank
  have hanswer := apply_eq_answer hitems hcall ctx hoperator
  have hbareAnswer := apply_eq_answer hitems hzero ctx (hbare ▸ hoperator)
  rw [hbare] at hbareAnswer
  refine ⟨?_, ?_⟩
  · intro hnone
    have hvalues : items.filterMap Json.number? = [] := by
      rw [List.filterMap_eq_nil_iff]
      intro item hmem
      obtain rfl | ⟨n, rfl⟩ := hitems item hmem
      · rfl
      · exact absurd hmem (hnone n)
    rw [hanswer, hvalues, answer_nil]
  · rintro ⟨n, hmem⟩
    have hvalues : items.filterMap Json.number? ≠ [] :=
      List.ne_nil_of_mem (List.mem_filterMap.mpr ⟨_, hmem, rfl⟩)
    refine ⟨_, hbareAnswer, ?_, ?_⟩
    · intro hvanishes
      rw [hanswer, answer_eq hvalues hoperator hvanishes fallback .positiveZero]
    · intro hmean hvanishes
      rw [hmean, answer_mean_eq hvanishes]
      exact ⟨Binary64.ofBinary64_zero false, apply_mean_eq hitems hcall ctx hmean hvanishes⟩

open scoped Regex.Standard

/-- A minimum over a null and a number, and over nulls alone. -/
theorem fallback_without_numbers_min :
    let ctx : Context := ⟨.null, ⟨0, 0⟩⟩
    let call : Call := ⟨.min, " 5abc", "min( 5abc)"⟩
    let bare : Call := ⟨.min, " ", "min( )"⟩
    (∃ found, apply ctx bare (some (.arr [.null, .ofInt 7])) = .ok found ∧
        apply ctx call (some (.arr [.null, .ofInt 7])) = .ok found) ∧
      apply ctx call (some (.arr [.null])) = .ok (.ofInt 5) := by
  intro ctx call bare
  have hcall : call.FallsBackTo (.ofInt 5) := by
    have hread : (parseLeadingNumber? call.argument.toList).map Binary64.finite =
        some (Binary64.ofInt 5) := by
      decide +kernel
    obtain ⟨five, hfive, hvalue⟩ := exists_startsWithNumber hread
    rw [← hvalue]
    exact .number hfive
  have hblank : Text.isAllBlank bare.argument.toList = true := by decide
  have hitems : ∀ item ∈ [.null, .ofInt 7], item = Json.null ∨ ∃ n, item = .num n := by
    intro item hmem
    rcases List.mem_pair.mp hmem with rfl | rfl
    · exact .inl rfl
    · exact .inr ⟨_, rfl⟩
  have hnulls : ∀ item ∈ [.null], item = Json.null ∨ ∃ n, item = .num n :=
    fun item hmem => .inl (List.mem_singleton.mp hmem)
  have hoperator : call.operator ∈ [.min, .max, .mean] := by decide
  have hbare : bare.operator = call.operator := rfl
  obtain ⟨-, hmixed⟩ := fallback_without_numbers ctx hitems hoperator hcall hbare hblank
  obtain ⟨hempty, -⟩ := fallback_without_numbers ctx hnulls hoperator hcall hbare hblank
  obtain ⟨found, hfound, hsame, -⟩ := hmixed ⟨.ofInt 7, List.mem_cons_of_mem _ (.head _)⟩
  refine ⟨⟨found, hfound, hsame nofun⟩, ?_⟩
  rw [hempty, Binary64.ofBinary64_ofInt (by decide)]
  intro n hmem
  cases List.mem_singleton.mp hmem

/-- The mean of a thousandth falls back to five, and to zero if the argument is blank. -/
theorem mean_falls_back_among_numbers :
    let ctx : Context := ⟨.null, ⟨0, 0⟩⟩
    let call : Call := ⟨.mean, "5", "mean(5)"⟩
    let bare : Call := ⟨.mean, "", "mean()"⟩
    ∃ x, Decimal.toBinary64 ⟨false, 1, -3⟩ = .finite x ∧ call.FallsBackTo (.ofInt 5) ∧
      apply ctx call (some (.arr [.num (.float x)])) = .ok (.ofInt 5) ∧
      apply ctx bare (some (.arr [.num (.float x)])) = .ok (.ofInt 0) := by
  intro ctx call bare
  obtain ⟨x, hx⟩ : ∃ x, Decimal.toBinary64 ⟨false, 1, -3⟩ = .finite x :=
    ⟨⟨false, Binary64.nearest Binary64.one 1000, Binary64.spacing_dvd_nearest _ _,
      by decide +kernel⟩, by decide +kernel⟩
  have hitems : ∀ item ∈ [Json.num (.float x)], item = .null ∨ ∃ n, item = .num n :=
    fun item hmem => .inr ⟨_, List.mem_singleton.mp hmem⟩
  have hvanishes : meanVanishes ([Json.num (.float x)].filterMap Json.number?) = true := by
    change meanVanishes [.finite x] = true
    rw [← hx]
    decide +kernel
  have hcall : call.FallsBackTo (.ofInt 5) := by
    have hread : (parseLeadingNumber? call.argument.toList).map Binary64.finite =
        some (Binary64.ofInt 5) := by
      decide +kernel
    obtain ⟨five, hfive, hvalue⟩ := exists_startsWithNumber hread
    rw [← hvalue]
    exact .number hfive
  have hbare : bare.FallsBackTo .positiveZero := .zero rfl
  refine ⟨x, hx, hcall, ?_, ?_⟩
  · rw [apply_mean_eq hitems hcall ctx rfl hvanishes, Binary64.ofBinary64_ofInt (by decide)]
  · rw [apply_mean_eq hitems hbare ctx rfl hvanishes, Binary64.positiveZero,
      Binary64.ofBinary64_zero]

end Operators

end DotQuery

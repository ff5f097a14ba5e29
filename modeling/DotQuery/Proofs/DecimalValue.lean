import DotQuery.Decimal.Basic
import DotQuery.Proofs.ExactValue
import Mathlib.Algebra.Order.Field.Power

/-!
# Values of decimals

Reading a decimal rounds its exact value. The number of its digits is found exactly, so the
exponents that are answered without a quotient are those at which every value is infinite or zero.
-/

namespace DotQuery

namespace Decimal

open Binary64

variable {d : Decimal} {n fuel k j : Nat}

/-! ### The number of digits -/

theorem lt_powerBeyond (hn : n < 10 ^ (k + fuel)) : n < 10 ^ powerBeyond n fuel k := by
  induction fuel generalizing k with
  | zero => exact hn
  | succ fuel ih =>
      rw [powerBeyond]
      split
      · assumption
      · exact ih (by rwa [Nat.succ_add_eq_add_succ])

theorem pow_le_of_lt_powerBeyond (hk : k ≤ j) (hj : j < powerBeyond n fuel k) : 10 ^ j ≤ n := by
  induction fuel generalizing k with
  | zero => exact absurd hj (Nat.not_lt.mpr hk)
  | succ fuel ih =>
      rw [powerBeyond] at hj
      split at hj
      · omega
      · next hle =>
          rcases Nat.lt_or_eq_of_le hk with hlt | rfl
          · exact ih hlt hj
          · exact Nat.le_of_not_lt hle

theorem pow_div_le {tens twos : Nat} (hratio : 10 ^ tens ≤ 2 ^ twos) (htwos : 0 < twos)
    (length : Nat) :
    10 ^ (length * tens / twos) ≤ 2 ^ length := by
  apply (Nat.pow_le_pow_iff_left htwos.ne').mp
  calc (10 ^ (length * tens / twos)) ^ twos = 10 ^ (length * tens / twos * twos) := by
        rw [Nat.pow_mul]
    _ ≤ 10 ^ (length * tens) := Nat.pow_le_pow_right (by decide) (Nat.div_mul_le_self _ _)
    _ = (10 ^ tens) ^ length := by rw [Nat.mul_comm, Nat.pow_mul]
    _ ≤ (2 ^ twos) ^ length := Nat.pow_le_pow_left hratio length
    _ = (2 ^ length) ^ twos := by rw [← Nat.pow_mul, Nat.mul_comm, Nat.pow_mul]

/-- The search starts at a power of ten that is not beyond the number. -/
theorem pow_start_le (hn : n ≠ 0) : 10 ^ (n.log2 * 30102 / 100000) ≤ n :=
  (pow_div_le (by decide +kernel) (by decide) n.log2).trans (Nat.log2_self_le hn)

theorem lt_digitCount_iff : j < digitCount n ↔ 10 ^ j ≤ n := by
  constructor
  · intro hj
    by_cases hstart : n.log2 * 30102 / 100000 ≤ j
    · exact pow_le_of_lt_powerBeyond hstart hj
    · have hn : n ≠ 0 := by
        rintro rfl
        rw [Nat.log2_zero] at hstart
        omega
      exact (Nat.pow_le_pow_right (by decide) (by omega)).trans (pow_start_le hn)
  · intro hle
    have hlt : n < 10 ^ digitCount n := by
      apply lt_powerBeyond
      calc n < 2 ^ (n.log2 + 1) := Nat.lt_log2_self
        _ ≤ 10 ^ (n.log2 + 1) := Nat.pow_le_pow_left (by decide) _
        _ ≤ _ := Nat.pow_le_pow_right (by decide) (Nat.le_add_left _ _)
    exact (Nat.pow_lt_pow_iff_right (by decide)).mp (hle.trans_lt hlt)

/-! ### Values -/

/-- The rational number that is written. -/
def value (d : Decimal) : ℚ :=
  sign d.negative * (d.digits * 10 ^ d.exponent)

theorem ten_zpow_pos (exponent : Int) : (0 : ℚ) < 10 ^ exponent :=
  zpow_pos (by decide) exponent

theorem two_pow_le_ten_pow {twos tens : Nat} (hle : 2 ^ twos ≤ 10 ^ tens) :
    (2 : ℚ) ^ twos ≤ 10 ^ (tens : Int) := by
  rw [zpow_natCast]
  exact_mod_cast hle

theorem abs_value (d : Decimal) : |d.value| = d.digits * 10 ^ d.exponent := by
  rw [value, abs_mul, abs_sign, one_mul,
    abs_of_nonneg (mul_nonneg (Nat.cast_nonneg _) (ten_zpow_pos _).le)]

theorem value_shift (d : Decimal) (places : Int) :
    (d.shift places).value = d.value * 10 ^ places := by
  rw [value, value, shift, zpow_add₀ (by decide)]
  ring

theorem abs_value_bounds (hdigits : d.digits ≠ 0) :
    10 ^ d.leadingExponent ≤ |d.value| ∧ |d.value| < 10 ^ (d.leadingExponent + 1) := by
  obtain ⟨count, hcount⟩ : ∃ count, digitCount d.digits = count + 1 := by
    apply Nat.exists_eq_add_one.mpr
    exact lt_digitCount_iff.mpr (Nat.one_le_iff_ne_zero.mpr hdigits)
  have hlow : (10 : ℚ) ^ count ≤ d.digits := by
    have hlt : count < digitCount d.digits := by
      rw [hcount]
      exact Nat.lt_succ_self count
    exact_mod_cast lt_digitCount_iff.mp hlt
  have hhigh : (d.digits : ℚ) < 10 ^ (count + 1) := by
    have hnot : ¬ 10 ^ (count + 1) ≤ d.digits := by
      rw [← lt_digitCount_iff, hcount]
      exact Nat.lt_irrefl _
    exact_mod_cast Nat.lt_of_not_le hnot
  have hleading : d.leadingExponent = count + d.exponent := by
    rw [leadingExponent, hcount]
    push_cast
    ring
  rw [abs_value, hleading, add_right_comm, zpow_add₀ (by decide), zpow_add₀ (by decide)]
  exact ⟨mul_le_mul_of_nonneg_right hlow (ten_zpow_pos _).le,
    mul_lt_mul_of_pos_right hhigh (ten_zpow_pos _)⟩

theorem mul_one_lt_half (hvalue : |d.value| < 10 ^ (-324 : Int)) : |d.value| * one < 1 / 2 := by
  have hpower : (2 : ℚ) ^ (oneExponent + 1) ≤ 10 ^ (324 : Int) :=
    two_pow_le_ten_pow (by decide +kernel)
  refine (mul_lt_mul_of_pos_right hvalue one_cast_pos).trans_le ?_
  rw [zpow_neg, inv_mul_le_iff₀ (ten_zpow_pos 324), one_cast]
  rw [pow_succ] at hpower
  linarith

/-- A decimal is read as the number nearest to its value. -/
theorem value?_toBinary64 (d : Decimal) : d.toBinary64.value? = rounded? d.value := by
  unfold toBinary64
  split_ifs with hdigits hlarge hsmall hexponent
  · have hzero : d.value = (Finite64.zero d.negative).value := by
      rw [value_zero, value, hdigits, Nat.cast_zero, zero_mul, mul_zero]
    rw [hzero, rounded?_value]
    rfl
  · symm
    apply rounded?_eq_none
    calc (2 : ℚ) ^ 1024 ≤ 10 ^ (309 : Int) := two_pow_le_ten_pow (by decide +kernel)
      _ ≤ 10 ^ d.leadingExponent := zpow_le_zpow_right₀ (by decide) hlarge
      _ ≤ |d.value| := (abs_value_bounds hdigits).1
  · have hvalue : |d.value| < 10 ^ (-324 : Int) :=
      (abs_value_bounds hdigits).2.trans_le (zpow_le_zpow_right₀ (by decide) (by omega))
    rw [rounded?_eq_zero (mul_one_lt_half hvalue), value?, value_zero]
  · have hpower : 0 < Nat.pow 10 (-d.exponent).toNat := Nat.pow_pos (by decide)
    rw [value?_ofRatio _ _ hpower, value]
    congr 1
    obtain ⟨places, hplaces⟩ := Int.eq_ofNat_of_zero_le (by omega : 0 ≤ -d.exponent)
    rw [hplaces, Int.toNat_natCast, ← Int.neg_neg d.exponent, hplaces, zpow_neg, zpow_natCast]
    have hone := one_cast_pos
    rw [Nat.pow_eq]
    push_cast
    field_simp
  · rw [value?_ofRatio _ _ Nat.one_pos, value]
    congr 1
    obtain ⟨places, hplaces⟩ := Int.eq_ofNat_of_zero_le (by omega : 0 ≤ d.exponent)
    rw [hplaces, Int.toNat_natCast, zpow_natCast]
    have hone := one_cast_pos
    rw [Nat.pow_eq]
    push_cast
    field_simp

end Decimal

end DotQuery

import DotQuery.Proofs.Nearest
import Mathlib.Algebra.Order.Archimedean.Basic
import Mathlib.Data.Rat.Floor

/-!
# Exact values

Every operation on double-precision numbers is the exact one on rational numbers, rounded once. What
a rational number is rounded to does not cross a number that needs no rounding, is never further
away than such a number, and lies within half the spacing.
-/

namespace DotQuery

open Binary64

namespace Finite64

/-- The rational number that is represented. -/
def value (x : Finite64) : ℚ :=
  x.scaled / one

end Finite64

namespace Binary64

variable {x y : Finite64} {p q r v : ℚ} {negative : Bool} {num den units exponent : Nat}

/-- The number nearest to a rational one. -/
def ofRat (q : ℚ) : Binary64 :=
  ofRatio (q < 0) (q.num.natAbs * one) q.den

def value? : Binary64 → Option ℚ
  | .finite x => some x.value
  | _ => none

/-- What a rational number is rounded to, none if that is infinite. -/
def rounded? (q : ℚ) : Option ℚ :=
  (ofRat q).value?

theorem one_cast_pos : (0 : ℚ) < one :=
  Nat.cast_pos.mpr one_pos

theorem one_cast : (one : ℚ) = 2 ^ oneExponent := by
  rw [one_eq, Nat.pow_eq, Nat.cast_pow, Nat.cast_ofNat]

/-! ### Magnitudes of rational numbers -/

/-- The rounded magnitude in units. -/
def magnitude (q : ℚ) : Nat :=
  nearest (q.num.natAbs * one) q.den

theorem abs_mul_one_eq (q : ℚ) : |q| * one = ((q.num.natAbs * one : Nat) : ℚ) / q.den := by
  have habs : |q| = (q.num.natAbs : ℚ) / q.den := by
    nth_rewrite 1 [← Rat.num_div_den q]
    rw [abs_div, Nat.abs_cast, Nat.cast_natAbs, Int.cast_abs]
  rw [habs]
  push_cast
  ring

theorem magnitude_eq_nearest (hden : 0 < den) (hq : |q| * one = (num : ℚ) / den) :
    magnitude q = nearest num den := by
  apply nearest_eq_nearest q.pos hden
  rw [abs_mul_one_eq, div_eq_div_iff (by exact_mod_cast q.den_ne_zero) (by positivity)] at hq
  exact_mod_cast hq

theorem magnitude_mono (hle : |p| ≤ |q|) : magnitude p ≤ magnitude q := by
  apply nearest_le_nearest p.pos q.pos
  have hscaled := mul_le_mul_of_nonneg_right hle one_cast_pos.le
  have hp : (0 : ℚ) < p.den := Nat.cast_pos.mpr p.pos
  have hq : (0 : ℚ) < q.den := Nat.cast_pos.mpr q.pos
  rw [abs_mul_one_eq, abs_mul_one_eq, div_le_div_iff₀ hp hq] at hscaled
  exact_mod_cast hscaled

theorem magnitude_congr (heq : |p| = |q|) : magnitude p = magnitude q :=
  Nat.le_antisymm (magnitude_mono heq.le) (magnitude_mono heq.ge)

theorem magnitude_close (hunits : spacing units ∣ units) :
    |(magnitude q : ℚ) - |q| * one| ≤ |(units : ℚ) - |q| * one| := by
  rw [abs_mul_one_eq]
  exact nearest_close _ q.pos hunits

theorem magnitude_of_units (hunits : spacing units ∣ units) (hq : |q| * one = units) :
    magnitude q = units := by
  have hclose := magnitude_close (q := q) hunits
  rw [hq, sub_self, abs_zero] at hclose
  exact_mod_cast sub_eq_zero.mp (abs_nonpos_iff.mp hclose)

theorem magnitude_two_pow (exponent : Nat) :
    magnitude (2 ^ exponent) = 2 ^ (exponent + oneExponent) := by
  apply magnitude_of_units
  · rw [spacing, Nat.log2_two_pow]
    exact Nat.pow_dvd_pow 2 (Nat.sub_le _ _)
  · rw [abs_of_pos (pow_pos two_pos exponent), one_cast, ← pow_add, Nat.cast_pow, Nat.cast_ofNat]

theorem magnitude_error (hq : |q| ≤ 2 ^ exponent) :
    |(magnitude q : ℚ) - |q| * one| ≤ 2 ^ exponent / 2 ^ 54 * one := by
  have hone := one_cast_pos
  rcases hq.lt_or_eq with hlt | heq
  · rw [abs_mul_one_eq]
    refine (nearest_error _ q.pos).trans ?_
    set quotient := q.num.natAbs * one / q.den
    have hbelow : quotient < 2 ^ (exponent + oneExponent) := by
      have hcast : ((q.num.natAbs * one : Nat) : ℚ) / q.den < 2 ^ (exponent + oneExponent) := by
        rw [← abs_mul_one_eq, pow_add, ← one_cast]
        exact mul_lt_mul_of_pos_right hlt hone
      have hfloor : (quotient : ℚ) ≤ ((q.num.natAbs * one : Nat) : ℚ) / q.den := Nat.cast_div_le
      exact_mod_cast hfloor.trans_lt hcast
    have hlog : quotient.log2 - 52 + 53 ≤ exponent + oneExponent := by
      by_cases hzero : quotient = 0
      · rw [hzero, Nat.log2_zero]
        unfold oneExponent
        omega
      · have := (Nat.log2_lt hzero).mpr hbelow
        unfold oneExponent at this ⊢
        omega
    have hspacing : spacing quotient * 2 ^ 53 ≤ 2 ^ (exponent + oneExponent) := by
      unfold spacing
      rw [Nat.pow_eq, ← Nat.pow_add]
      exact Nat.pow_le_pow_right Nat.two_pos hlog
    have hcast : (spacing quotient : ℚ) * 2 ^ 53 ≤ 2 ^ exponent * one := by
      rw [one_cast, ← pow_add]
      exact_mod_cast hspacing
    rw [div_mul_eq_mul_div, div_le_div_iff₀ two_pos (by positivity)]
    linarith
  · -- a power of two is not rounded
    have hsame : magnitude q = magnitude (2 ^ exponent) := by
      apply magnitude_congr
      rw [heq, abs_of_pos (pow_pos two_pos exponent)]
    rw [hsame, magnitude_two_pow, heq, Nat.cast_pow, Nat.cast_ofNat, pow_add, one_cast, sub_self,
      abs_zero]
    exact mul_nonneg (by positivity) (pow_pos two_pos _).le

/-! ### Places of rational numbers -/

theorem isNaN_ofRat (q : ℚ) : (ofRat q).isNaN = false :=
  isNaN_ofRatio _ _ _

theorem place_ofRat (q : ℚ) :
    (ofRat q).place =
      if q < 0 then -((min (magnitude q) limit : Nat) : Int)
      else (min (magnitude q) limit : Nat) := by
  rw [ofRat, place_ofRatio]
  simp only [decide_eq_true_eq, magnitude]

theorem place_ofRat_mono (hle : p ≤ q) : (ofRat p).place ≤ (ofRat q).place := by
  rw [place_ofRat, place_ofRat]
  split_ifs with hp hq hq
  · have := magnitude_mono (p := q) (q := p) (by rw [abs_of_neg hp, abs_of_neg hq]; linarith)
    omega
  · omega
  · linarith
  · have := magnitude_mono (p := p) (q := q) (by
      rw [abs_of_nonneg (not_lt.mp hp), abs_of_nonneg (not_lt.mp hq)]; exact hle)
    omega

/-! ### Numbers that need no rounding -/

theorem value_mul_one (x : Finite64) : x.value * one = x.scaled := by
  rw [Finite64.value, div_mul_cancel₀ _ one_cast_pos.ne']

theorem abs_value_mul_one (x : Finite64) : |x.value| * one = x.units := by
  have habs : |x.scaled| = x.units := by
    unfold Finite64.scaled
    split <;> simp
  rw [← abs_of_pos one_cast_pos, ← abs_mul, value_mul_one, ← Int.cast_abs, habs, Int.cast_natCast]

theorem value_neg_iff : x.value < 0 ↔ x.scaled < 0 := by
  rw [Finite64.value, div_lt_iff₀ one_cast_pos, zero_mul, Int.cast_lt_zero]

theorem value_eq_zero_iff : x.value = 0 ↔ x.scaled = 0 := by
  rw [Finite64.value, div_eq_zero_iff, or_iff_left one_cast_pos.ne', Int.cast_eq_zero]

theorem value_zero (negative : Bool) : (Finite64.zero negative).value = 0 :=
  value_eq_zero_iff.mpr (scaled_zero negative)

theorem place_ofRat_of_magnitude (hmagnitude : magnitude q = x.units)
    (hsign : q < 0 ↔ x.value < 0) : (ofRat q).place = x.scaled := by
  rw [place_ofRat, hmagnitude, min_eq_left x.representable.2.le,
    if_congr (hsign.trans value_neg_iff) rfl rfl]
  unfold Finite64.scaled
  split_ifs <;> omega

theorem place_ofRat_value (x : Finite64) : (ofRat x.value).place = x.scaled :=
  place_ofRat_of_magnitude (magnitude_of_units x.representable.1 (abs_value_mul_one x)) Iff.rfl

theorem eq_of_value_eq (hvalue : x.value = y.value) (hx : x.value ≠ 0) : x = y := by
  rw [Finite64.value, Finite64.value, div_left_inj' one_cast_pos.ne', Int.cast_inj] at hvalue
  exact finite_eq_of_scaled_eq hvalue (mt value_eq_zero_iff.mpr hx)

/-! ### Operations -/

theorem value?_eq_of_place_eq {a b : Binary64} (ha : a.isNaN = false) (hb : b.isNaN = false)
    (hplace : a.place = b.place) : a.value? = b.value? := by
  have halike := alike_of_place_eq ha hb hplace
  cases halike with
  | same => rfl
  | zeros s t =>
      rw [value?, value?, value_zero, value_zero]

theorem place_ofScaled (zeroNegative : Bool) (scaled : Int) :
    (ofScaled zeroNegative scaled).place = (ofRat (scaled / one)).place := by
  have hmagnitude : magnitude (scaled / one) = nearest scaled.natAbs 1 := by
    apply magnitude_eq_nearest Nat.one_pos
    rw [abs_div, abs_of_pos one_cast_pos, div_mul_cancel₀ _ one_cast_pos.ne', Nat.cast_natAbs,
      Int.cast_abs, Nat.cast_one, div_one]
  have hsign : (scaled : ℚ) / one < 0 ↔ scaled < 0 := by
    rw [div_lt_iff₀ one_cast_pos, zero_mul, Int.cast_lt_zero]
  rw [place_ofRat, hmagnitude, if_congr hsign rfl rfl]
  split_ifs with hneg
  · rw [← Int.neg_neg scaled, place_ofScaled_neg,
      place_ofScaled_of_nonneg zeroNegative (by omega), Int.neg_neg, Int.natAbs_neg]
  · exact place_ofScaled_of_nonneg zeroNegative (by omega)

theorem value?_ofScaled (zeroNegative : Bool) (scaled : Int) :
    (ofScaled zeroNegative scaled).value? = rounded? (scaled / one) :=
  value?_eq_of_place_eq (isNaN_ofScaled _ _) (isNaN_ofRat _) (place_ofScaled _ _)

/-- Minus one for a negative number. -/
def sign (negative : Bool) : ℚ :=
  if negative then -1 else 1

theorem abs_sign (negative : Bool) : |sign negative| = 1 := by
  cases negative <;> simp [sign]

theorem value?_ofRatio (negative : Bool) (num : Nat) (hden : 0 < den) :
    (ofRatio negative num den).value? = rounded? (sign negative * (num / den / one)) := by
  have hone := one_cast_pos
  have hden' : (0 : ℚ) < den := Nat.cast_pos.mpr hden
  have habs : |sign negative * ((num : ℚ) / den / one)| = num / den / one := by
    rw [abs_mul, abs_sign, one_mul,
      abs_of_nonneg (div_nonneg (div_nonneg (Nat.cast_nonneg _) hden'.le) hone.le)]
  have hmagnitude : magnitude (sign negative * (num / den / one)) = nearest num den := by
    apply magnitude_eq_nearest hden
    rw [habs, div_mul_cancel₀ _ hone.ne']
  apply value?_eq_of_place_eq (isNaN_ofRatio _ _ _) (isNaN_ofRat _)
  rw [place_ofRatio, place_ofRat, hmagnitude]
  by_cases hzero : num = 0
  · have hnearest : nearest num den = 0 := by
      rw [hzero, nearest, Nat.zero_div]
      have hround := roundHalfEven_mul (Nat.mul_pos hden (spacing_pos 0)) 0
      rw [Nat.zero_mul] at hround
      rw [hround, Nat.zero_mul]
    rw [hnearest, Nat.zero_min, Nat.cast_zero, neg_zero, ite_self, ite_self]
  · have hpositive : (0 : ℚ) < num / den / one :=
      div_pos (div_pos (Nat.cast_pos.mpr (Nat.pos_of_ne_zero hzero)) hden') hone
    cases negative with
    | false =>
        have hsign : ¬ sign false * ((num : ℚ) / den / one) < 0 := by
          rw [sign, if_neg Bool.false_ne_true, one_mul]
          exact hpositive.not_gt
        rw [if_neg Bool.false_ne_true, if_neg hsign]
    | true =>
        have hsign : sign true * ((num : ℚ) / den / one) < 0 := by
          rw [sign, if_pos rfl, neg_one_mul]
          exact neg_neg_of_pos hpositive
        rw [if_pos rfl, if_pos hsign]

theorem value?_add (x y : Finite64) :
    (add (.finite x) (.finite y)).value? = rounded? (x.value + y.value) := by
  rw [add, value?_ofScaled, Finite64.value, Finite64.value, Int.cast_add, add_div]

theorem value?_floor (x : Finite64) : (floor (.finite x)).value? = rounded? ⌊x.value⌋ := by
  have hfloor : ⌊x.value⌋ = x.scaled / one := by
    rw [Finite64.value, Rat.floor_intCast_div_natCast]
  rw [floor, value?_ofScaled, hfloor, Int.cast_mul, Int.cast_natCast,
    mul_div_cancel_right₀ _ one_cast_pos.ne']

/-! ### What a rational number is rounded to -/

theorem value?_eq_some_iff {a : Binary64} :
    a.value? = some v ↔ ∃ y, a = .finite y ∧ y.value = v := by
  cases a <;> simp [value?]

theorem rounded?_eq_of_place (hplace : (ofRat q).place = x.scaled) : rounded? q = some x.value := by
  rw [rounded?, value?_eq_of_place_eq (isNaN_ofRat _) (b := .finite x) rfl hplace]
  rfl

theorem rounded?_value (x : Finite64) : rounded? x.value = some x.value :=
  rounded?_eq_of_place (place_ofRat_value x)

theorem value_le_value_iff : x.value ≤ y.value ↔ x.scaled ≤ y.scaled := by
  rw [Finite64.value, Finite64.value, div_le_div_iff_of_pos_right one_cast_pos, Int.cast_le]

theorem rounded?_le (hq : rounded? q = some v) (hle : q ≤ y.value) : v ≤ y.value := by
  obtain ⟨x, hx, rfl⟩ := value?_eq_some_iff.mp hq
  have hplace := place_ofRat_mono hle
  rw [hx, place_ofRat_value] at hplace
  exact value_le_value_iff.mpr hplace

theorem le_rounded? (hq : rounded? q = some v) (hle : y.value ≤ q) : y.value ≤ v := by
  obtain ⟨x, hx, rfl⟩ := value?_eq_some_iff.mp hq
  have hplace := place_ofRat_mono hle
  rw [hx, place_ofRat_value] at hplace
  exact value_le_value_iff.mpr hplace

theorem rounded?_mono {w : ℚ} (hp : rounded? p = some v) (hq : rounded? q = some w) (hle : p ≤ q) :
    v ≤ w := by
  obtain ⟨x, hx, rfl⟩ := value?_eq_some_iff.mp hp
  obtain ⟨y, hy, rfl⟩ := value?_eq_some_iff.mp hq
  have hplace := place_ofRat_mono hle
  rw [hx, hy] at hplace
  exact value_le_value_iff.mpr hplace

/-- What lies between two numbers that are rounded alike is rounded in the same way. -/
theorem rounded?_of_between (hp : rounded? p = some v) (hr : rounded? r = some v) (hpq : p ≤ q)
    (hqr : q ≤ r) : rounded? q = some v := by
  obtain ⟨y, hy, rfl⟩ := value?_eq_some_iff.mp hp
  obtain ⟨z, hz, hsame⟩ := value?_eq_some_iff.mp hr
  have hlow := place_ofRat_mono hpq
  have hhigh := place_ofRat_mono hqr
  have hplace : z.scaled = y.scaled :=
    le_antisymm (value_le_value_iff.mp hsame.le) (value_le_value_iff.mp hsame.ge)
  rw [hy] at hlow
  rw [hz] at hhigh
  exact rounded?_eq_of_place (le_antisymm (hhigh.trans hplace.le) hlow)

theorem abs_rounded?_mul_one (hv : rounded? q = some v) : |v| * one = magnitude q := by
  obtain ⟨y, hy, rfl⟩ := value?_eq_some_iff.mp hv
  have hplace := place_ofRat q
  have hbounds := scaled_bounds y
  have hunits : y.units = y.scaled.natAbs := by
    unfold Finite64.scaled
    split <;> simp
  rw [hy, place] at hplace
  rw [abs_value_mul_one, Nat.cast_inj, hunits]
  split_ifs at hplace <;> omega

theorem two_pow_le_rounded? (hv : rounded? q = some v) (hle : 2 ^ exponent ≤ |q|) :
    2 ^ exponent ≤ |v| := by
  apply le_of_mul_le_mul_right _ one_cast_pos
  have hmagnitude : magnitude (2 ^ exponent) ≤ magnitude q :=
    magnitude_mono ((abs_of_pos (pow_pos two_pos exponent)).le.trans hle)
  rw [abs_rounded?_mul_one hv, one_cast, ← pow_add]
  rw [magnitude_two_pow] at hmagnitude
  exact_mod_cast hmagnitude

theorem abs_value_sub_mul_one (hq : ofRat q = .finite y) :
    |y.value - q| * one = |(magnitude q : ℚ) - |q| * one| := by
  have hscaled : y.scaled = if q < 0 then -(magnitude q : Int) else magnitude q := by
    have hplace := place_ofRat q
    have hbounds := scaled_bounds y
    rw [hq, place] at hplace
    split_ifs at hplace ⊢ <;> omega
  rw [← abs_of_pos one_cast_pos, ← abs_mul, abs_of_pos one_cast_pos, sub_mul, value_mul_one,
    hscaled]
  split_ifs with hneg
  · rw [abs_of_neg hneg, ← abs_neg]
    push_cast
    ring_nf
  · rw [abs_of_nonneg (not_lt.mp hneg), Int.cast_natCast]

theorem rounded?_error (hv : rounded? q = some v) (hq : |q| ≤ 2 ^ exponent) :
    |v - q| ≤ 2 ^ exponent / 2 ^ 54 := by
  obtain ⟨y, hy, rfl⟩ := value?_eq_some_iff.mp hv
  have herror := magnitude_error hq
  rw [← abs_value_sub_mul_one hy] at herror
  exact le_of_mul_le_mul_right herror one_cast_pos

/-- No number is nearer. -/
theorem rounded?_close (hv : rounded? q = some v) (z : Finite64) : |v - q| ≤ |z.value - q| := by
  obtain ⟨y, hy, rfl⟩ := value?_eq_some_iff.mp hv
  apply le_of_mul_le_mul_right _ one_cast_pos
  calc |y.value - q| * one = |(magnitude q : ℚ) - |q| * one| := abs_value_sub_mul_one hy
    _ ≤ |(z.units : ℚ) - |q| * one| := magnitude_close z.representable.1
    _ = |(|z.value| - |q|)| * one := by
        rw [← abs_value_mul_one, ← sub_mul, abs_mul, abs_of_pos one_cast_pos]
    _ ≤ |z.value - q| * one :=
        mul_le_mul_of_nonneg_right (abs_abs_sub_abs_le_abs_sub _ _) one_cast_pos.le

theorem exists_rounded?_of_magnitude (hbelow : magnitude q < limit) : ∃ v, rounded? q = some v := by
  have hplace := place_ofRat q
  rw [min_eq_left hbelow.le] at hplace
  have hnan := isNaN_ofRat q
  cases hfound : ofRat q with
  | nan =>
      rw [hfound] at hnan
      cases hnan
  | infinite negative =>
      rw [hfound] at hplace
      have hlimit : (0 : Int) < limit := Int.natCast_pos.mpr limit_pos
      cases negative <;> simp only [place, Bool.false_eq_true, ↓reduceIte] at hplace <;>
        split_ifs at hplace <;> omega
  | finite y => exact ⟨y.value, value?_eq_some_iff.mpr ⟨y, hfound, rfl⟩⟩

theorem exists_rounded?_of_abs_le (hr : rounded? r = some v) (hle : |q| ≤ |r|) :
    ∃ w, rounded? q = some w := by
  apply exists_rounded?_of_magnitude
  obtain ⟨y, -, rfl⟩ := value?_eq_some_iff.mp hr
  have hmagnitude := abs_rounded?_mul_one hr
  rw [abs_value_mul_one, Nat.cast_inj] at hmagnitude
  exact (magnitude_mono hle).trans_lt (hmagnitude ▸ y.representable.2)

/-- What is less than half the last spacing beyond the finite range still rounds into it. -/
theorem exists_rounded?_eq (hq : |q| < 2 ^ 1024 - 2 ^ 970) : ∃ v, rounded? q = some v := by
  apply exists_rounded?_of_magnitude
  have hpow : |q| ≤ 2 ^ 1024 := hq.le.trans (sub_le_self _ (by positivity))
  have herror := (abs_le.mp (magnitude_error hpow)).2
  have hsum : (magnitude q : ℚ) < 2 ^ 1024 * one := by
    have hscaled := mul_lt_mul_of_pos_right hq one_cast_pos
    have hlast : (2 : ℚ) ^ 1024 / 2 ^ 54 = 2 ^ 970 := by
      rw [div_eq_iff (by positivity), ← pow_add]
    rw [hlast] at herror
    rw [sub_mul] at hscaled
    generalize (2 : ℚ) ^ 1024 = top, (2 : ℚ) ^ 970 = last at herror hscaled ⊢
    linarith
  rw [one_cast, ← pow_add] at hsum
  unfold limit
  generalize 1024 + oneExponent = exponent at hsum ⊢
  exact_mod_cast hsum

theorem exists_rounded?_of_le_two_pow (hq : |q| ≤ 2 ^ exponent) (hexponent : exponent < 1024) :
    ∃ v, rounded? q = some v := by
  apply exists_rounded?_of_magnitude
  calc magnitude q ≤ magnitude (2 ^ exponent) :=
        magnitude_mono (hq.trans (abs_of_pos (pow_pos two_pos exponent)).ge)
    _ = 2 ^ (exponent + oneExponent) := magnitude_two_pow exponent
    _ < limit := by
        have hlt := Nat.add_lt_add_right hexponent oneExponent
        unfold limit
        generalize 1024 + oneExponent = top at hlt ⊢
        exact Nat.pow_lt_pow_right Nat.one_lt_two hlt

theorem pow_dvd_units (hle : 2 ^ (52 + exponent) ≤ x.units) : 2 ^ exponent ∣ x.units := by
  have hpos : x.units ≠ 0 := (Nat.two_pow_pos _).trans_le hle |>.ne'
  have hlog : 52 + exponent ≤ x.units.log2 := (Nat.le_log2 hpos).mpr hle
  exact Nat.dvd_trans (Nat.pow_dvd_pow 2 (by omega)) x.representable.1

theorem abs_value_le (x : Finite64) : |x.value| ≤ 2 ^ 1024 - 2 ^ 971 := by
  obtain ⟨places, hplaces⟩ : ∃ places, places = 971 + oneExponent := ⟨_, rfl⟩
  have hsteps : x.units + 2 ^ places ≤ 2 ^ 53 * 2 ^ places := by
    have hlimit : x.units < 2 ^ 53 * 2 ^ places := by
      have hbelow := x.representable.2
      unfold limit at hbelow
      rwa [Nat.pow_eq, (by omega : 1024 + oneExponent = 53 + places), Nat.pow_add] at hbelow
    by_cases hlarge : 2 ^ (52 + places) ≤ x.units
    · obtain ⟨count, hcount⟩ := pow_dvd_units hlarge
      rw [hcount, Nat.mul_comm] at hlimit ⊢
      rw [← Nat.succ_mul]
      exact Nat.mul_le_mul_right _ (Nat.lt_of_mul_lt_mul_right hlimit)
    · rw [Nat.pow_add] at hlarge
      omega
  have hpower : (2 : ℚ) ^ 1024 = 2 ^ 53 * 2 ^ 971 := by rw [← pow_add]
  have hcast : (x.units : ℚ) + 2 ^ 971 * one ≤ 2 ^ 1024 * one := by
    rw [hpower, mul_assoc, one_cast, ← pow_add 2 971, ← hplaces]
    exact_mod_cast hsteps
  apply le_of_mul_le_mul_right _ one_cast_pos
  rw [abs_value_mul_one, sub_mul]
  exact le_sub_iff_add_le.mpr hcast

theorem rounded?_eq_none (hq : 2 ^ 1024 ≤ |q|) : rounded? q = none := by
  have hlimit : limit ≤ magnitude q := by
    have hpower := magnitude_two_pow 1024
    unfold limit
    generalize 1024 + oneExponent = exponent at hpower ⊢
    rw [Nat.pow_eq, ← hpower]
    exact magnitude_mono ((abs_of_pos (pow_pos two_pos 1024)).le.trans hq)
  have hplace := place_ofRat q
  rw [min_eq_right hlimit] at hplace
  cases hfound : ofRat q with
  | nan | infinite _ =>
      rw [rounded?, hfound]
      rfl
  | finite y =>
      have hbounds := scaled_bounds y
      rw [hfound, place] at hplace
      split_ifs at hplace <;> omega

/-- A step of one is not enough to leave the finite range. -/
theorem exists_rounded?_of_near (hq : |q - x.value| ≤ 1) : ∃ v, rounded? q = some v := by
  apply exists_rounded?_eq
  have hlast : (1 : ℚ) < 2 ^ 970 := one_lt_pow₀ one_lt_two (by decide)
  have hbounds := abs_le.mp (abs_value_le x)
  have hnear := abs_le.mp hq
  rw [pow_succ 2 970] at hbounds
  generalize (2 : ℚ) ^ 970 = last, (2 : ℚ) ^ 1024 = top at *
  exact abs_lt.mpr (by constructor <;> linarith [hbounds.1, hbounds.2])

theorem exists_rounded?_add_half (x : Finite64) : ∃ v, rounded? (x.value + 1 / 2) = some v :=
  exists_rounded?_of_near (by rw [add_sub_cancel_left]; norm_num)

/-- What is below half a unit is zero. -/
theorem rounded?_eq_zero (hq : |q| * one < 1 / 2) : rounded? q = some 0 := by
  have hmagnitude : magnitude q = 0 := by
    have hclose := magnitude_close (q := q) (Nat.dvd_zero (spacing 0))
    have hpositive : 0 ≤ |q| * one := mul_nonneg (abs_nonneg q) one_cast_pos.le
    rw [Nat.cast_zero, zero_sub, abs_neg, abs_of_nonneg hpositive] at hclose
    have hbelow : (magnitude q : ℚ) < 1 := by linarith [(abs_le.mp hclose).2]
    exact Nat.lt_one_iff.mp (by exact_mod_cast hbelow)
  rw [← value_zero false]
  apply rounded?_eq_of_place
  rw [place_ofRat, hmagnitude]
  simp [scaled_zero]

theorem representable_of_le {count : Nat} (hcount : count ≤ 2 ^ 53)
    (hexponent : exponent ≤ oneExponent) :
    Representable (count * 2 ^ exponent) := by
  have hle : count * 2 ^ exponent ≤ 2 ^ (53 + exponent) := by
    rw [Nat.pow_add]
    exact Nat.mul_le_mul_right _ hcount
  constructor
  · rcases Nat.lt_or_eq_of_le hle with hlt | heq
    · exact Nat.dvd_trans (spacing_of_lt hlt) (Nat.dvd_mul_left _ _)
    · rw [heq, spacing, Nat.log2_two_pow]
      exact Nat.pow_dvd_pow 2 (Nat.sub_le _ _)
  · refine Nat.lt_of_le_of_lt hle ?_
    unfold limit
    generalize oneExponent = unit at hexponent ⊢
    exact Nat.pow_lt_pow_right Nat.one_lt_two (by omega)

/-- A number of 53 binary digits, up to 1074 of them behind the point, needs no rounding. -/
theorem exists_value_eq {numerator : Int} (hnumerator : numerator.natAbs ≤ 2 ^ 53)
    (hexponent : exponent ≤ oneExponent) : ∃ y : Finite64, y.value = numerator / 2 ^ exponent := by
  have hunits := representable_of_le hnumerator (Nat.sub_le oneExponent exponent)
  have hone : (one : ℚ) = 2 ^ (oneExponent - exponent) * 2 ^ exponent := by
    rw [one_cast, ← pow_add, Nat.sub_add_cancel hexponent]
  have hscaled : Finite64.scaled ⟨decide (numerator < 0), _, hunits⟩ =
      numerator * 2 ^ (oneExponent - exponent) := by
    simp only [Finite64.scaled, decide_eq_true_eq]
    push_cast
    split_ifs with hneg
    · rw [abs_of_neg hneg]
      ring
    · rw [abs_of_nonneg (not_lt.mp hneg)]
  refine ⟨⟨decide (numerator < 0), _, hunits⟩, ?_⟩
  rw [Finite64.value, hscaled, hone]
  push_cast
  field_simp

end Binary64

end DotQuery

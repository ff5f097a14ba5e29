import DotQuery.Decimal.Shortest
import DotQuery.Evaluation.Operators
import DotQuery.Proofs.Attempt
import DotQuery.Proofs.HalfUp
import DotQuery.Proofs.Shortest

/-!
# Rounding to hundredths

A number is rounded by the hundredfold of the decimal that it is written as, and that hundredfold is
itself rounded to a double before one half is added. What is rounded half up is therefore the
nearest double, which is the hundredfold itself up to fifteen digits, and a half too much where it
has just reached the next half.
-/

namespace DotQuery

open Binary64

namespace Finite64

variable {x y : Finite64} {n : Int}

/-- The value of the decimal that a number is written as. -/
def written (x : Finite64) : ℚ :=
  (x.shortest .away).value

def hundredfold (x : Finite64) : ℚ :=
  100 * x.written

theorem rounded?_written (x : Finite64) : rounded? x.written = some x.value :=
  rounded?_shortest .away x

theorem written_of_intCast (hx : x.value = n) (hn : |n| < 2 ^ 52) : x.written = n := by
  by_cases hzero : n = 0
  · rw [written, value_shortest_eq_zero .away (by rw [hx, hzero, Int.cast_zero]), hzero,
      Int.cast_zero]
  · have hone : (1 : ℚ) ≤ |(n : ℚ)| := by exact_mod_cast Int.one_le_abs hzero
    have hcast : |(n : ℚ)| < 2 ^ 52 := by exact_mod_cast hn
    have hread : rounded? (n * 10 ^ (0 : Int)) = some x.value := by
      rw [zpow_zero, mul_one, ← hx, rounded?_value]
    have habove : (10 : ℚ) ^ (0 : Int) ≤ |x.value| := by
      rw [hx, zpow_zero]
      exact hone
    have hbelow : |x.value| < 2 ^ 52 := by
      rw [hx]
      exact hcast
    have hgrid := value_shortest_of_grid .away (by decide) hread habove hbelow (by norm_num)
    rwa [zpow_zero, mul_one] at hgrid

end Finite64

namespace Binary64

variable {x y : Finite64} {q s v w : ℚ} {n : Int}

/-! ### The steps -/

theorem value?_shiftDecimal (x : Finite64) (places : Int) :
    ((Binary64.finite x).shiftDecimal places).value? = rounded? (x.written * 10 ^ places) := by
  rw [shiftDecimal, Decimal.value?_toBinary64, Decimal.value_shift]
  rfl

theorem value?_half : half.value? = some (1 / 2) := by
  obtain ⟨y, hy⟩ := exists_value_eq (by decide : (1 : Int).natAbs ≤ 2 ^ 53)
    (by decide : 1 ≤ oneExponent)
  have hhalf : sign false * ((one : ℚ) / (2 : Nat) / one) = y.value := by
    have hone := one_cast_pos.ne'
    rw [hy, sign, if_neg Bool.false_ne_true]
    push_cast
    field_simp
  rw [half, value?_ofRatio false one Nat.two_pos, hhalf, rounded?_value, hy]
  norm_num

theorem value?_add_half (x : Finite64) :
    ((Binary64.finite x).add half).value? = rounded? (x.value + 1 / 2) := by
  obtain ⟨y, hy, hvalue⟩ := value?_eq_some_iff.mp value?_half
  rw [hy, value?_add, hvalue]

theorem exists_roundToHundredths (hs : rounded? x.hundredfold = some s)
    (hv : rounded? (s + 1 / 2) = some v) (hw : rounded? ⌊v⌋ = some w) :
    ∃ y : Finite64, y.value = w ∧
      (Binary64.finite x).roundToHundredths.value? = rounded? (y.written / 100) := by
  have hshift : ((Binary64.finite x).shiftDecimal 2).value? = some s := by
    rw [value?_shiftDecimal, ← hs, Finite64.hundredfold, mul_comm]
    norm_num
  obtain ⟨a, ha, rfl⟩ := value?_eq_some_iff.mp hshift
  obtain ⟨b, hb, rfl⟩ := value?_eq_some_iff.mp ((value?_add_half a).trans hv)
  obtain ⟨y, hy, rfl⟩ := value?_eq_some_iff.mp ((value?_floor b).trans hw)
  refine ⟨y, rfl, ?_⟩
  rw [roundToHundredths, ha, hb, hy, value?_shiftDecimal, zpow_neg, div_eq_mul_inv]
  norm_num

/-! ### The greatest number below one half -/

theorem hundredfold_eq {d : Decimal} (hd : x.shortest .away = d) :
    x.hundredfold = 100 * d.value := by
  rw [Finite64.hundredfold, Finite64.written, hd]

theorem le_midpoint_of_abs_le {a b : ℚ} (hab : a < b) (hclose : |a - q| ≤ |b - q|) :
    q ≤ (a + b) / 2 := by
  by_contra hfar
  rcases abs_cases (a - q) with ha | ha <;> rcases abs_cases (b - q) with hb | hb <;> linarith

theorem midpoint_le_of_abs_le {a b : ℚ} (hab : a < b) (hclose : |b - q| ≤ |a - q|) :
    (a + b) / 2 ≤ q := by
  by_contra hfar
  rcases abs_cases (a - q) with ha | ha <;> rcases abs_cases (b - q) with hb | hb <;> linarith

theorem value_of_units {count exponent : Nat} (hunits : Representable (count * 2 ^ exponent)) :
    Finite64.value ⟨false, count * 2 ^ exponent, hunits⟩ = count * (2 ^ exponent / one) := by
  rw [Finite64.value, Finite64.scaled, if_neg Bool.false_ne_true]
  push_cast
  ring

/-- The numbers around 0.005 are multiples of `2 ^ -60`. -/
theorem exists_count_of_near (hlow : 5764607523034233 < x.value * 2 ^ 60)
    (hhigh : x.value * 2 ^ 60 < 5764607523034236) :
    ∃ (count : Nat) (hunits : Representable (count * 2 ^ 1014)),
      (count = 5764607523034234 ∨ count = 5764607523034235) ∧
        x = ⟨false, count * 2 ^ 1014, hunits⟩ := by
  have hone : (2 : ℚ) ^ 1014 / one = 1 / 2 ^ 60 := by
    rw [one_cast, (by decide : oneExponent = 1014 + 60), pow_add, div_mul_eq_div_div, div_self]
    exact (pow_pos two_pos 1014).ne'
  have hpos : 0 < x.value := by linarith
  have hunits : 2 ^ (52 + 1014) ≤ x.units := by
    have hscaled : (2 : ℚ) ^ (52 + 1014) ≤ x.units := by
      rw [← abs_value_mul_one, abs_of_pos hpos, one_cast,
        (by decide : oneExponent = 8 + (52 + 1014)), pow_add 2 8, ← mul_assoc]
      exact le_mul_of_one_le_left (pow_pos two_pos _).le (by linarith)
    exact_mod_cast hscaled
  obtain ⟨n, hn⟩ := exists_mul_of_le hunits
  rw [hone] at hn
  have hn' : n = 5764607523034234 ∨ n = 5764607523034235 := by
    rw [hn] at hlow hhigh
    have hnLow : (5764607523034233 : ℚ) < n := by linarith
    have hnHigh : (n : ℚ) < 5764607523034236 := by linarith
    have hnLow' : 5764607523034233 < n := by exact_mod_cast hnLow
    have hnHigh' : n < 5764607523034236 := by exact_mod_cast hnHigh
    omega
  obtain ⟨count, rfl⟩ := Int.eq_ofNat_of_zero_le (by omega : 0 ≤ n)
  have hrepresentable : Representable (count * 2 ^ 1014) :=
    representable_of_le (by omega) (by decide)
  refine ⟨count, hrepresentable, by omega, eq_of_value_eq ?_ hpos.ne'⟩
  rw [value_of_units, hone, hn, Int.cast_natCast]

theorem shortest_around_half :
    (∀ hunits : Representable (5764607523034234 * 2 ^ 1014),
      Finite64.shortest .away ⟨false, _, hunits⟩ = ⟨false, 4999999999999999, -18⟩) ∧
    ∀ hunits : Representable (5764607523034235 * 2 ^ 1014),
      Finite64.shortest .away ⟨false, _, hunits⟩ = ⟨false, 5, -3⟩ := by
  decide +kernel

/-- Of the two numbers whose decimals might have a hundredfold next to it, one is written with
sixteen digits and the other as 0.005. -/
theorem rounded?_hundredfold_ne (hs : rounded? x.hundredfold = some s) :
    s ≠ 1 / 2 - 1 / 2 ^ 54 := by
  rintro rfl
  obtain ⟨half, hhalf⟩ := exists_value_eq (by decide : (1 : Int).natAbs ≤ 2 ^ 53)
    (by decide : 1 ≤ oneExponent)
  obtain ⟨below, hbelow⟩ := exists_value_eq (by decide : (2 ^ 52 - 1 : Int).natAbs ≤ 2 ^ 53)
    (by decide : 53 ≤ oneExponent)
  obtain ⟨near, hnear⟩ := exists_value_eq
    (by decide : (5764607523034234 : Int).natAbs ≤ 2 ^ 53) (by decide : 60 ≤ oneExponent)
  push_cast at hhalf hbelow hnear
  have hhigh := le_midpoint_of_abs_le (by rw [hhalf]; norm_num) (rounded?_close hs half)
  have hlow := midpoint_le_of_abs_le (by rw [hbelow]; norm_num) (rounded?_close hs below)
  have hwritten := rounded?_close x.rounded?_written near
  rw [hhalf] at hhigh
  rw [hbelow] at hlow
  rw [hnear] at hwritten
  obtain ⟨count, hunits, hcount, hx⟩ : ∃ (count : Nat) (hunits : Representable (count * 2 ^ 1014)),
      (count = 5764607523034234 ∨ count = 5764607523034235) ∧
        x = ⟨false, count * 2 ^ 1014, hunits⟩ := by
    rw [Finite64.hundredfold] at hhigh hlow
    apply exists_count_of_near <;>
      rcases abs_cases (x.value - x.written) with ha | ha <;>
      rcases abs_cases (5764607523034234 / 2 ^ 60 - x.written) with hb | hb <;>
      linarith
  rcases hcount with rfl | rfl
  · rw [hundredfold_eq (hx ▸ shortest_around_half.1 hunits), Decimal.value] at hlow
    norm_num [sign] at hlow
  · rw [hundredfold_eq (hx ▸ shortest_around_half.2 hunits), Decimal.value] at hhigh
    norm_num [sign] at hhigh

/-! ### Half up -/

theorem abs_halfUp_lt (hs : rounded? q = some s) (hq : |q| ≤ 2 ^ 52 - 1) :
    |s| ≤ 2 ^ 52 - 1 ∧ |halfUp s| < 2 ^ 52 := by
  have hsLe : |s| ≤ 2 ^ 52 - 1 := by
    obtain ⟨hlow, hhigh⟩ := abs_le.mp hq
    have hsLow := rounded?_mono (rounded?_intCast (n := -(2 ^ 52 - 1)) (by decide)) hs
      (by push_cast; linarith)
    have hsHigh := rounded?_mono hs (rounded?_intCast (n := 2 ^ 52 - 1) (by decide))
      (by push_cast; linarith)
    push_cast at hsLow hsHigh
    exact abs_le.mpr (by constructor <;> linarith)
  refine ⟨hsLe, ?_⟩
  obtain ⟨hlow, hhigh⟩ := halfUp_eq_iff.mp (rfl : halfUp s = halfUp s)
  obtain ⟨hsLow, hsHigh⟩ := abs_le.mp hsLe
  have habs : |(halfUp s : ℚ)| < 2 ^ 52 := abs_lt.mpr (by constructor <;> linarith)
  exact_mod_cast habs

theorem exists_rounded?_div_hundred (hn : |n| < 2 ^ 52) : ∃ v, rounded? (n / 100) = some v := by
  have hcast : |(n : ℚ)| < 2 ^ 52 := by exact_mod_cast hn
  have hle : |(n : ℚ) / 100| ≤ 2 ^ 52 := by
    rw [abs_div, abs_of_pos (by norm_num : (0 : ℚ) < 100)]
    linarith
  exact exists_rounded?_of_le_two_pow hle (by decide)

theorem value?_roundToHundredths (hs : rounded? x.hundredfold = some s)
    (hx : |x.hundredfold| ≤ 2 ^ 52 - 1) :
    (Binary64.finite x).roundToHundredths.value? = rounded? (halfUp s / 100) := by
  obtain ⟨hsLe, hcount⟩ := abs_halfUp_lt hs hx
  obtain ⟨a, -, rfl⟩ := value?_eq_some_iff.mp hs
  obtain ⟨v, hv, hfloor⟩ := exists_floor_eq_halfUp (hsLe.trans_lt (by norm_num))
    (rounded?_hundredfold_ne hs)
  have hw : rounded? (⌊v⌋ : ℚ) = some (halfUp a.value : ℚ) := by
    rw [hfloor, rounded?_intCast (hcount.le.trans (by norm_num))]
  obtain ⟨y, hy, hround⟩ := exists_roundToHundredths hs hv hw
  rw [hround, Finite64.written_of_intCast hy hcount]

/-! ### Numbers that stay -/

theorem rounded?_hundredfold_div (x : Finite64) :
    rounded? (x.hundredfold / 100) = some x.value := by
  rw [Finite64.hundredfold, mul_div_cancel_left₀ _ (by norm_num), x.rounded?_written]

theorem value?_roundToHundredths_of_intCast (hx : x.hundredfold = n) (hn : |n| ≤ 2 ^ 52 - 1) :
    (Binary64.finite x).roundToHundredths.value? = some x.value := by
  have hs : rounded? x.hundredfold = some (n : ℚ) := by
    rw [hx, rounded?_intCast (hn.trans (by norm_num))]
  have hle : |x.hundredfold| ≤ 2 ^ 52 - 1 := by
    rw [hx]
    exact_mod_cast hn
  rw [value?_roundToHundredths hs hle, halfUp_intCast, ← hx, rounded?_hundredfold_div]

/-- Beyond the fractions a multiple of ten is rounded to an even integer, which is written as that
multiple if the grid is coarser than the spacing. -/
theorem value?_roundToHundredths_of_large {count : Int} {k : Nat} (exponent : Nat)
    (hx : x.hundredfold = count * 10 ^ (k + 1)) (hlow : 2 ^ 52 ≤ |x.hundredfold|)
    (hhigh : |x.hundredfold| + 2 ^ exponent / 2 ^ 54 < 2 ^ exponent)
    (hgrid : (2 : ℚ) ^ exponent < 10 ^ (k + 1) * 2 ^ 53) (hk : k ≤ 2) :
    (Binary64.finite x).roundToHundredths.value? = some x.value := by
  have hpower : (10 : ℚ) ^ (k + 1) ≤ 10 ^ 3 := pow_le_pow_right₀ (by decide) (by omega)
  have hexponent : exponent < 1024 := by
    by_contra hlarge
    have hle : (2 : ℚ) ^ 63 ≤ 2 ^ exponent := pow_le_pow_right₀ one_le_two (by omega)
    linarith
  have hle : |x.hundredfold| ≤ 2 ^ exponent := by
    have hpos : (0 : ℚ) < 2 ^ exponent / 2 ^ 54 := by positivity
    linarith
  obtain ⟨s, hs⟩ := exists_rounded?_of_le_two_pow hle hexponent
  obtain ⟨a, -, rfl⟩ := value?_eq_some_iff.mp hs
  obtain ⟨m, hm⟩ : ∃ m : Int, x.hundredfold = (2 * (5 * m) : Int) := by
    refine ⟨count * 10 ^ k, ?_⟩
    rw [hx]
    push_cast
    ring
  obtain ⟨n, hn, hfar⟩ : ∃ n : Int, a.value = 2 * n ∧ 2 ^ 52 < |a.value| := by
    have hmLow : 2 ^ 52 ≤ |2 * (5 * m)| := by
      rw [hm] at hlow
      exact_mod_cast hlow
    exact exists_even_of_rounded? (hm ▸ hs) (by
      rcases abs_cases (2 * (5 * m)) with hm' | hm' <;> omega)
  have hw : rounded? (⌊a.value⌋ : ℚ) = some a.value := by
    have hfloor : (⌊a.value⌋ : ℚ) = a.value := by
      rw [hn, (by push_cast; rfl : (2 * n : ℚ) = (2 * n : Int)), Int.floor_intCast]
    rw [hfloor, rounded?_value]
  obtain ⟨y, hy, hround⟩ := exists_roundToHundredths hs (rounded?_add_half_of_even hfar hn) hw
  have hwritten : y.written = x.hundredfold := by
    have herror := abs_le.mp (rounded?_error hs hle)
    have hbelow : |a.value| < 2 ^ exponent := by
      have hbounds := abs_le.mp (le_refl |x.hundredfold|)
      exact abs_lt.mpr (by constructor <;> linarith [hbounds.1, hbounds.2])
    rw [hx, ← zpow_natCast] at hs ⊢
    rw [← zpow_natCast] at hpower hgrid
    rw [← hy] at hs hfar hbelow
    apply Finite64.value_shortest_of_grid .away (by omega) hs _ hbelow hgrid
    linarith
  rw [hround, hwritten, rounded?_hundredfold_div]

theorem abs_hundredfold_lt (hx : |x.value| < 2 ^ 53) : |x.hundredfold| < 100 * 2 ^ 53 := by
  have hwritten : |x.written| < 2 ^ 53 := by
    by_contra hge
    exact absurd hx (not_lt.mpr (two_pow_le_rounded? x.rounded?_written (not_lt.mp hge)))
  rw [Finite64.hundredfold, abs_mul, abs_of_pos (by norm_num : (0 : ℚ) < 100)]
  linarith

theorem value?_roundToHundredths_of_count {count : Int} {k : Nat}
    (hx : x.hundredfold = count * 10 ^ k) (hcount : |count| < 2 ^ 52) (hsafe : |x.value| < 2 ^ 53) :
    (Binary64.finite x).roundToHundredths.value? = some x.value := by
  obtain ⟨n, hn⟩ : ∃ n : Int, x.hundredfold = n := ⟨count * 10 ^ k, by rw [hx]; push_cast; rfl⟩
  rcases le_or_gt |n| (2 ^ 52 - 1) with hsmall | hlarge
  · exact value?_roundToHundredths_of_intCast hn hsmall
  · have hlow : 2 ^ 52 ≤ |x.hundredfold| := by
      have hnLow : 2 ^ 52 ≤ |n| := by omega
      rw [hn]
      exact_mod_cast hnLow
    have hhigh := abs_hundredfold_lt hsafe
    have hscaled : |x.hundredfold| ≤ 2 ^ 52 * 10 ^ k := by
      have hcast : |(count : ℚ)| ≤ 2 ^ 52 := by exact_mod_cast hcount.le
      rw [hx, abs_mul, abs_of_pos (by positivity : (0 : ℚ) < 10 ^ k)]
      exact mul_le_mul_of_nonneg_right hcast (by positivity)
    match k with
    | 0 =>
        have hne : |x.hundredfold| < 2 ^ 52 := by
          rw [hx, pow_zero, mul_one]
          exact_mod_cast hcount
        linarith
    | 1 =>
        exact value?_roundToHundredths_of_large 56 hx hlow (by linarith) (by norm_num)
          (by decide)
    | 2 =>
        exact value?_roundToHundredths_of_large 59 hx hlow (by linarith) (by norm_num)
          (by decide)
    | k + 3 =>
        have hx' : x.hundredfold = (count * 10 ^ k : Int) * 10 ^ (2 + 1) := by
          rw [hx]
          push_cast
          ring
        exact value?_roundToHundredths_of_large 62 hx' hlow (by linarith) (by norm_num)
          (by decide)

/-! ### What has been rounded -/

theorem one_hundredth_le (hs : rounded? q = some s) (hq : 1 / 100 ≤ |q|) : 1 / 100 ≤ |s| := by
  have hone := one_cast_pos
  have hmagnitude : magnitude (1 / 100) = nearest one 100 := by
    apply magnitude_eq_nearest (by decide)
    rw [abs_of_pos (by norm_num)]
    push_cast
    ring
  have hle : magnitude (1 / 100) ≤ magnitude q :=
    magnitude_mono ((abs_of_pos (by norm_num : (0 : ℚ) < 1 / 100)).le.trans hq)
  have hnearest : one ≤ nearest one 100 * 100 := by decide +kernel
  rw [hmagnitude] at hle
  apply le_of_mul_le_mul_right _ hone
  rw [abs_rounded?_mul_one hs, div_mul_eq_mul_div, one_mul, div_le_iff₀ (by norm_num)]
  exact_mod_cast hnearest.trans (Nat.mul_le_mul_right 100 hle)

theorem hundredfold_of_rounded? (hy : rounded? (n / 100) = some y.value) (hn : |n| ≤ 2 ^ 52 - 1) :
    y.hundredfold = n := by
  have hcast : |(n : ℚ)| ≤ 2 ^ 52 - 1 := by exact_mod_cast hn
  rcases eq_or_ne n 0 with rfl | hne
  · have hzero : y.value = 0 := by
      have hexact := rounded?_intCast (by decide : |(0 : Int)| ≤ 2 ^ 53)
      rw [Int.cast_zero, zero_div] at hy
      rw [Int.cast_zero, hy] at hexact
      exact Option.some.inj hexact
    rw [Finite64.hundredfold, Finite64.written, Finite64.value_shortest_eq_zero .away hzero,
      mul_zero, Int.cast_zero]
  · have habs : |(n : ℚ) / 100| = |(n : ℚ)| / 100 := by
      rw [abs_div, abs_of_pos (by norm_num : (0 : ℚ) < 100)]
    have hone : (1 : ℚ) ≤ |(n : ℚ)| := by exact_mod_cast Int.one_le_abs hne
    have hlow : 1 / 100 ≤ |y.value| := one_hundredth_le hy (by rw [habs]; linarith)
    have hbound : |(n : ℚ) / 100| ≤ 2 ^ 46 := by
      rw [habs]
      linarith
    have herror := abs_le.mp (rounded?_error hy hbound)
    have hhigh : |y.value| < 2 ^ 46 := by
      have hbounds := abs_le.mp (le_refl |(n : ℚ)|)
      exact abs_lt.mpr (by constructor <;> linarith [hbounds.1, hbounds.2])
    have hgrid : (10 : ℚ) ^ (-2 : Int) = 1 / 100 := by norm_num
    have hwritten : y.written = n * 10 ^ (-2 : Int) := by
      apply Finite64.value_shortest_of_grid .away (by decide) _ _ hhigh
      · rw [hgrid]
        norm_num
      · rw [hgrid, mul_one_div]
        exact hy
      · rwa [hgrid]
    rw [Finite64.hundredfold, hwritten, hgrid]
    ring

/-! ### Nearest hundredths -/

/-- The double is the one nearest to the number, the even one of two at the same distance. -/
def IsNearest (a : Binary64) (q : ℚ) : Prop :=
  ∃ y : Finite64, a = .finite y ∧ rounded? q = some y.value ∧
    ∀ z : Finite64, |y.value - q| ≤ |z.value - q|

theorem isNearest_of_value? {a : Binary64} (ha : a.value? = some v) (hq : rounded? q = some v) :
    IsNearest a q := by
  obtain ⟨y, hy, rfl⟩ := value?_eq_some_iff.mp ha
  exact ⟨y, hy, hq, rounded?_close hq⟩

theorem alike_of_value?_eq {a b : Binary64} (ha : a.value? = some v) (hb : b.value? = some v) :
    Alike a b := by
  obtain ⟨y, rfl, rfl⟩ := value?_eq_some_iff.mp ha
  obtain ⟨z, rfl, hz⟩ := value?_eq_some_iff.mp hb
  exact alike_of_place_eq rfl rfl
    (le_antisymm (value_le_value_iff.mp hz.ge) (value_le_value_iff.mp hz.le))

theorem exists_hundredfold_eq (x : Finite64) : ∃ count places : Int,
    x.hundredfold = count * 10 ^ places ∧ |count| = (x.shortest .away).digits := by
  refine ⟨if (x.shortest .away).negative then -(x.shortest .away).digits
    else (x.shortest .away).digits, (x.shortest .away).exponent + 2, ?_, ?_⟩
  · rw [Finite64.hundredfold, Finite64.written, Decimal.value, sign, zpow_add₀ (by decide)]
    split <;> push_cast <;> norm_num <;> ring
  · split <;> simp

theorem places_nonneg {count places : Int} (hcount : |count| < 10 ^ 15)
    (hlarge : 2 ^ 52 - 1 < |(count : ℚ) * 10 ^ places|) : 0 ≤ places := by
  by_contra hneg
  have hpower : (10 : ℚ) ^ places ≤ 10 ^ (-1 : Int) := zpow_le_zpow_right₀ (by decide) (by omega)
  have hcast : |(count : ℚ)| ≤ 10 ^ 15 := by exact_mod_cast hcount.le
  have hproduct := mul_le_mul hcast hpower (Decimal.ten_zpow_pos places).le (by norm_num)
  rw [abs_mul, abs_of_pos (Decimal.ten_zpow_pos places)] at hlarge
  norm_num at hproduct
  linarith

theorem roundToHundredths_of_digits (hdigits : (x.shortest .away).digits < 10 ^ 15)
    (hx : |x.value| < 2 ^ 53) :
    IsNearest (Binary64.finite x).roundToHundredths (halfUp x.hundredfold / 100) := by
  obtain ⟨count, places, hvalue, hcount⟩ := exists_hundredfold_eq x
  have hcountLt : |count| < 10 ^ 15 := by
    rw [hcount]
    exact_mod_cast hdigits
  have hbound := abs_hundredfold_lt hx
  rcases le_or_gt |x.hundredfold| (2 ^ 52 - 1) with hsmall | hlarge
  · have hle : |x.hundredfold| ≤ 2 ^ 60 := by linarith
    obtain ⟨s, hs⟩ := exists_rounded?_of_le_two_pow hle (by decide)
    have hround := value?_roundToHundredths hs hsmall
    obtain ⟨-, hcount⟩ := abs_halfUp_lt hs hsmall
    rw [halfUp_rounded?_of_digits hs hsmall hvalue hcountLt] at hround hcount
    obtain ⟨v, hv⟩ := exists_rounded?_div_hundred hcount
    exact isNearest_of_value? (hround.trans hv) hv
  · obtain ⟨k, rfl⟩ := Int.eq_ofNat_of_zero_le (places_nonneg hcountLt (hvalue ▸ hlarge))
    rw [zpow_natCast] at hvalue
    obtain ⟨n, hn⟩ : ∃ n : Int, x.hundredfold = n :=
      ⟨count * 10 ^ k, by rw [hvalue]; push_cast; rfl⟩
    apply isNearest_of_value?
    · exact value?_roundToHundredths_of_count hvalue (hcountLt.trans (by norm_num)) hx
    · rw [hn, halfUp_intCast, ← hn, rounded?_hundredfold_div]

theorem roundToHundredths_eq_of_value_eq
    (hstays : (Binary64.finite x).roundToHundredths.value? = some x.value)
    (hy : y.value = x.value) : (Binary64.finite y).roundToHundredths.value? = some x.value := by
  rcases eq_or_ne x.value 0 with hzero | hne
  · have hwritten : y.hundredfold = (0 : Int) := by
      rw [Finite64.hundredfold, Finite64.written,
        Finite64.value_shortest_eq_zero .away (hy.trans hzero), mul_zero, Int.cast_zero]
    rw [← hy]
    exact value?_roundToHundredths_of_intCast hwritten (by decide)
  · rwa [eq_of_value_eq hy (hy ▸ hne)]

end Binary64

namespace Operators

open Query

theorem apply_sum_eq [Regex.Engine] {x : Finite64} {call : Call} {items : List Json} (ctx : Context)
    (hstays : (Binary64.finite x).roundToHundredths.value? = some x.value)
    (hoperator : call.operator = .sum)
    (hitems : (items.filterMap fun item =>
      (item.member? call.trimmedArgument).bind Json.number?) = [.finite x]) :
    apply ctx call (some (.arr items)) = .ok (.ofBinary64 (.finite x)) := by
  have hsum : (Sequence.sumBy call.trimmedArgument items).value? = some x.value := by
    rw [Sequence.sumBy, hitems]
    change (add (.finite (.zero true)) (.finite x)).value? = some x.value
    rw [value?_add, value_zero, zero_add, rounded?_value]
  obtain ⟨y, hy, hvalue⟩ := value?_eq_some_iff.mp hsum
  have hround := roundToHundredths_eq_of_value_eq hstays hvalue
  have hsequence : sequence call (some (.arr items)) = .ok items := rfl
  rw [apply, hoperator]
  simp only [hsequence, Attempt.ok_bind]
  rw [hy, (alike_of_value?_eq hround (b := .finite x) rfl).ofBinary64_eq]
  rfl

end Operators

namespace Binary64

open Query

variable {x : Finite64}

/-- Below `2 ^ 52` hundredths the nearest double of the hundredfold is rounded half up, which is a
hundredth too much only if that double has reached the next half, and a second rounding changes
nothing. Up to fifteen digits the decimal itself is rounded half up. A count of hundredths of fewer
than 52 binary digits, zeros at its end apart, stays, and so does a sum over it. -/
theorem roundToHundredths_half_up [Regex.Engine] (x : Finite64) (hx : |x.value| < 2 ^ 53) :
    (|x.hundredfold| ≤ 2 ^ 52 - 1 → ∃ s y : Finite64, IsNearest (.finite s) x.hundredfold ∧
      (halfUp s.value = halfUp x.hundredfold ∨ s.value = halfUp x.hundredfold + 1 / 2) ∧
      (Binary64.finite x).roundToHundredths = .finite y ∧
      IsNearest (.finite y) (halfUp s.value / 100) ∧
      (Binary64.finite y).roundToHundredths.value? = some y.value) ∧
    ((x.shortest .away).digits < 10 ^ 15 →
      IsNearest (Binary64.finite x).roundToHundredths (halfUp x.hundredfold / 100)) ∧
    ∀ (count : Int) (k : Nat), |count| < 2 ^ 52 → x.hundredfold = count * 10 ^ k →
      (Binary64.finite x).roundToHundredths.value? = some x.value ∧
      ∀ (ctx : Context) (call : Call) (items : List Json), call.operator = .sum →
        (items.filterMap fun item =>
          (item.member? call.trimmedArgument).bind Json.number?) = [.finite x] →
        Operators.apply ctx call (some (.arr items)) = .ok (.ofBinary64 (.finite x)) := by
  refine ⟨fun hsmall => ?_, fun hdigits => roundToHundredths_of_digits hdigits hx, ?_⟩
  · have hle : |x.hundredfold| ≤ 2 ^ 52 := by linarith
    obtain ⟨v, hv⟩ := exists_rounded?_of_le_two_pow hle (by decide)
    obtain ⟨s, hs, rfl⟩ := value?_eq_some_iff.mp hv
    obtain ⟨hlow, hhigh⟩ := rounded?_near_halfUp hv hsmall
    obtain ⟨-, hcount⟩ := abs_halfUp_lt hv hsmall
    have hround := value?_roundToHundredths hv hsmall
    obtain ⟨w, hw⟩ := exists_rounded?_div_hundred hcount
    obtain ⟨y, hy, rfl⟩ := value?_eq_some_iff.mp (hround.trans hw)
    refine ⟨s, y, isNearest_of_value? rfl hv, ?_, hy, isNearest_of_value? rfl hw, ?_⟩
    · rcases hhigh.lt_or_eq with hlt | heq
      · exact .inl (halfUp_eq_iff.mpr ⟨hlow, hlt⟩)
      · exact .inr heq
    · have hcount' : |halfUp s.value| ≤ 2 ^ 52 - 1 := by omega
      exact value?_roundToHundredths_of_intCast (hundredfold_of_rounded? hw hcount') hcount'
  · intro count k hcount hvalue
    have hstays := value?_roundToHundredths_of_count hvalue hcount hx
    exact ⟨hstays, fun ctx call items => Operators.apply_sum_eq ctx hstays⟩

open scoped Regex.Standard

/-- The third decimal of 1.005 is rounded up, although the number itself lies below 1.005. -/
theorem roundToHundredths_half_up_on_text : ∃ x : Finite64,
    Decimal.toBinary64 ⟨false, 1005, -3⟩ = .finite x ∧ |x.value| < 2 ^ 53 ∧ x.value < 1005 / 1000 ∧
      IsNearest (Binary64.finite x).roundToHundredths (101 / 100) := by
  obtain ⟨x, hx, hshortest, hunits⟩ : ∃ x : Finite64,
      Decimal.toBinary64 ⟨false, 1005, -3⟩ = .finite x ∧
      x.shortest .away = ⟨false, 1005, -3⟩ ∧ (0 ≤ x.scaled ∧ x.scaled * 1000 < 1005 * one) :=
    ⟨⟨false, nearest (1005 * one) 1000, spacing_dvd_nearest _ _, by decide +kernel⟩,
      by decide +kernel, by decide +kernel, by decide +kernel⟩
  have hbelow : x.value < 1005 / 1000 := by
    have hcast : (x.scaled : ℚ) * 1000 < 1005 * one := by exact_mod_cast hunits.2
    rw [Finite64.value, div_lt_div_iff₀ one_cast_pos (by norm_num)]
    exact hcast
  have hnonneg : 0 ≤ x.value := div_nonneg (by exact_mod_cast hunits.1) one_cast_pos.le
  have hsafe : |x.value| < 2 ^ 53 := by
    rw [abs_of_nonneg hnonneg]
    linarith
  have hhalf : halfUp x.hundredfold = 101 := by
    rw [halfUp_eq_iff, hundredfold_eq hshortest, Decimal.value]
    norm_num [sign]
  have hdigits : (x.shortest .away).digits < 10 ^ 15 := by
    rw [hshortest]
    norm_num
  have hnearest := (roundToHundredths_half_up x hsafe).2.1 hdigits
  rw [hhalf, Int.cast_ofNat] at hnearest
  exact ⟨x, hx, hsafe, hbelow, hnearest⟩

/-- An amount in hundredths is moved to the next hundredth where one half more than its count is a
tie between two integers. -/
theorem roundToHundredths_moves_hundredth : ∃ x : Finite64,
    Decimal.toBinary64 ⟨false, 4503599627370497, -2⟩ = .finite x ∧ |x.value| < 2 ^ 53 ∧
      x.hundredfold = 4503599627370497 ∧
      (Binary64.finite x).roundToHundredths = Decimal.toBinary64 ⟨false, 4503599627370498, -2⟩ ∧
      ¬ IsNearest (Binary64.finite x).roundToHundredths (halfUp x.hundredfold / 100) := by
  obtain ⟨x, hx, hshortest, hround, hne⟩ : ∃ x : Finite64,
      Decimal.toBinary64 ⟨false, 4503599627370497, -2⟩ = .finite x ∧
      x.shortest .away = ⟨false, 4503599627370497, -2⟩ ∧
      (Binary64.finite x).roundToHundredths = Decimal.toBinary64 ⟨false, 4503599627370498, -2⟩ ∧
      Decimal.toBinary64 ⟨false, 4503599627370498, -2⟩ ≠ .finite x :=
    ⟨⟨false, nearest (4503599627370497 * one) 100, spacing_dvd_nearest _ _, by decide +kernel⟩,
      by decide +kernel, by decide +kernel, by decide +kernel, by decide +kernel⟩
  have hcount : x.hundredfold = (4503599627370497 : Int) := by
    rw [hundredfold_eq hshortest, Decimal.value]
    norm_num [sign]
  have hvalue := rounded?_hundredfold_div x
  have hbound : |x.hundredfold / 100| ≤ 2 ^ 46 := by
    rw [hcount]
    norm_num
  have hsafe : |x.value| < 2 ^ 53 := by
    have herror := abs_le.mp (rounded?_error hvalue hbound)
    have hbounds := abs_le.mp hbound
    exact abs_lt.mpr (by constructor <;> linarith)
  have hpos : x.value ≠ 0 := by
    have hle := one_hundredth_le hvalue (by rw [hcount]; norm_num)
    rintro hzero
    rw [hzero, abs_zero] at hle
    norm_num at hle
  refine ⟨x, hx, hsafe, by rw [hcount, Int.cast_ofNat], hround, ?_⟩
  rintro ⟨y, hy, hnearest, -⟩
  rw [hcount, halfUp_intCast, ← hcount, hvalue] at hnearest
  rw [hround, ← eq_of_value_eq (Option.some.inj hnearest) hpos] at hy
  exact hne hy

end Binary64

end DotQuery

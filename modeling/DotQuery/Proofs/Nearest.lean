import DotQuery.Proofs.Rounding
import Mathlib.Algebra.Order.Field.Rat
import Mathlib.Data.Nat.Cast.Order.Field
import Mathlib.Data.Rat.Lemmas
import Mathlib.Tactic.FieldSimp
import Mathlib.Tactic.Linarith
import Mathlib.Tactic.Positivity
import Mathlib.Tactic.Ring

/-!
# Rounding to the nearest number

No representable magnitude is nearer to a quotient than the one it is rounded to, and the distance
is at most half the local spacing. What a quotient is rounded to depends on its value only, so
rounding is a function of a rational number, and one that keeps the order.
-/

namespace DotQuery

namespace Binary64

/-! ### Quotients -/

section Quotients

variable {num den num' den' units : Nat}

theorem roundHalfEven_error (num : Nat) (hden : 0 < den) :
    |((roundHalfEven num den : Nat) : ℚ) - num / den| ≤ 1 / 2 := by
  have hden' : (0 : ℚ) < den := Nat.cast_pos.mpr hden
  have hsplit : (num : ℚ) = den * (num / den : Nat) + (num % den : Nat) := by
    exact_mod_cast (Nat.div_add_mod num den).symm
  have hfraction : (num : ℚ) / den = (num / den : Nat) + (num % den : Nat) / den := by
    rw [hsplit]
    field_simp
  have hlow : 0 ≤ ((num % den : Nat) : ℚ) / den := by positivity
  unfold roundHalfEven
  dsimp only
  rw [hfraction, abs_le]
  split_ifs with hbelow habove
  · have hhalf : ((num % den : Nat) : ℚ) / den < 1 / 2 := by
      rw [div_lt_iff₀ hden']
      have : (2 * (num % den : Nat) : ℚ) < den := by exact_mod_cast hbelow
      linarith
    constructor <;> linarith
  · have hhalf : 1 / 2 < ((num % den : Nat) : ℚ) / den := by
      rw [lt_div_iff₀ hden']
      have : (den : ℚ) < 2 * (num % den : Nat) := by exact_mod_cast habove
      linarith
    have hone : ((num % den : Nat) : ℚ) / den < 1 := by
      rw [div_lt_one hden']
      exact_mod_cast Nat.mod_lt num hden
    push_cast
    constructor <;> linarith
  · have hhalf : ((num % den : Nat) : ℚ) / den = 1 / 2 := by
      rw [div_eq_iff hden'.ne']
      have : (2 * (num % den : Nat) : ℚ) = den := by
        exact_mod_cast (by omega : 2 * (num % den) = den)
      linarith
    have hparity : ((num / den % 2 : Nat) : ℚ) ≤ 1 := by
      exact_mod_cast (by omega : num / den % 2 ≤ 1)
    have hparity' : (0 : ℚ) ≤ ((num / den % 2 : Nat) : ℚ) := Nat.cast_nonneg _
    rw [hhalf]
    push_cast
    constructor <;> linarith

/-- No whole number is nearer. -/
theorem roundHalfEven_close (num : Nat) (hden : 0 < den) (count : Nat) :
    |((roundHalfEven num den : Nat) : ℚ) - num / den| ≤ |(count : ℚ) - num / den| := by
  have herror := roundHalfEven_error num hden
  by_cases heq : roundHalfEven num den = count
  · rw [heq]
  · have hapart : (1 : ℚ) ≤ |((roundHalfEven num den : Nat) : ℚ) - count| := by
      have : (1 : Int) ≤ |((roundHalfEven num den : Nat) : Int) - count| :=
        Int.one_le_abs (by omega)
      exact_mod_cast this
    have htriangle := abs_sub_le ((roundHalfEven num den : Nat) : ℚ) (num / den) count
    rw [abs_sub_comm ((num : ℚ) / den)] at htriangle
    linarith

theorem nearest_sub (num : Nat) (hden : 0 < den) (count : Nat) :
    |((count * spacing (num / den) : Nat) : ℚ) - num / den| =
      |(count : ℚ) - num / (den * spacing (num / den) : Nat)| * spacing (num / den) := by
  have hstep : (0 : ℚ) < spacing (num / den) := Nat.cast_pos.mpr (spacing_pos _)
  have hden' : (0 : ℚ) < den := Nat.cast_pos.mpr hden
  rw [← abs_of_pos hstep, ← abs_mul]
  congr 1
  push_cast
  field_simp

theorem nearest_error (num : Nat) (hden : 0 < den) :
    |((nearest num den : Nat) : ℚ) - num / den| ≤ spacing (num / den) / 2 := by
  have hstep : (0 : ℚ) < spacing (num / den) := Nat.cast_pos.mpr (spacing_pos _)
  have herror := roundHalfEven_error num (Nat.mul_pos hden (spacing_pos (num / den)))
  rw [nearest, nearest_sub num hden]
  calc _ ≤ 1 / 2 * (spacing (num / den) : ℚ) := mul_le_mul_of_nonneg_right herror hstep.le
    _ = spacing (num / den) / 2 := by ring

/-- Of two magnitudes with different spacings the leading power of the greater lies between them. -/
theorem leading_power_between {quotient : Nat} (hfine : spacing units < spacing quotient) :
    units < 2 ^ quotient.log2 ∧ 2 ^ quotient.log2 ≤ quotient := by
  have hlog : units.log2 - 52 < quotient.log2 - 52 :=
    (Nat.pow_lt_pow_iff_right Nat.one_lt_two).mp hfine
  constructor
  · by_cases hzero : units = 0
    · rw [hzero]
      exact Nat.two_pow_pos _
    · exact (Nat.log2_lt hzero).mp (by omega)
  · apply Nat.log2_self_le
    rintro rfl
    rw [Nat.log2_zero] at hlog
    omega

/-- A power of two between a lesser magnitude and the quotient lies on the grid of the quotient, so
nothing below that power comes nearer than the grid does. -/
theorem nearest_close (num : Nat) (hden : 0 < den) (hunits : spacing units ∣ units) :
    |((nearest num den : Nat) : ℚ) - num / den| ≤ |(units : ℚ) - num / den| := by
  have hstep : (0 : ℚ) < spacing (num / den) := Nat.cast_pos.mpr (spacing_pos _)
  have hgrid (count : Nat) : |((nearest num den : Nat) : ℚ) - num / den| ≤
      |((count * spacing (num / den) : Nat) : ℚ) - num / den| := by
    rw [nearest, nearest_sub num hden, nearest_sub num hden]
    exact mul_le_mul_of_nonneg_right
      (roundHalfEven_close num (Nat.mul_pos hden (spacing_pos _)) count) hstep.le
  by_cases hfine : spacing units < spacing (num / den)
  · obtain ⟨hbelow, habove⟩ := leading_power_between hfine
    have hquotient : ((2 ^ (num / den).log2 : Nat) : ℚ) ≤ num / den := by
      calc ((2 ^ (num / den).log2 : Nat) : ℚ) ≤ (num / den : Nat) := Nat.cast_le.mpr habove
        _ ≤ num / den := Nat.cast_div_le
    have hunits' : (units : ℚ) < (2 ^ (num / den).log2 : Nat) := Nat.cast_lt.mpr hbelow
    have hpower := hgrid (2 ^ ((num / den).log2 - ((num / den).log2 - 52)))
    rw [← two_pow_eq_mul_spacing (Nat.sub_le _ _)] at hpower
    refine hpower.trans ?_
    rw [abs_of_nonpos (by linarith), abs_of_nonpos (by linarith)]
    linarith
  · have hdvd : spacing (num / den) ∣ units := by
      refine Nat.dvd_trans (Nat.pow_dvd_pow 2 ?_) hunits
      exact (Nat.pow_le_pow_iff_right Nat.one_lt_two).mp (Nat.le_of_not_lt hfine)
    obtain ⟨count, rfl⟩ := hdvd
    rw [Nat.mul_comm]
    exact hgrid count

theorem roundHalfEven_mul_right {factor : Nat} (hfactor : 0 < factor) :
    roundHalfEven (num * factor) (den * factor) = roundHalfEven num den := by
  have hbelow : 2 * (num % den * factor) < den * factor ↔ 2 * (num % den) < den := by
    rw [← Nat.mul_assoc, Nat.mul_lt_mul_right hfactor]
  have habove : den * factor < 2 * (num % den * factor) ↔ den < 2 * (num % den) := by
    rw [← Nat.mul_assoc, Nat.mul_lt_mul_right hfactor]
  unfold roundHalfEven
  simp only [Nat.mul_div_mul_right _ _ hfactor, Nat.mul_mod_mul_right, hbelow, habove]

theorem nearest_mul_right {factor : Nat} (hfactor : 0 < factor) :
    nearest (num * factor) (den * factor) = nearest num den := by
  unfold nearest
  dsimp only
  rw [Nat.mul_div_mul_right _ _ hfactor, Nat.mul_right_comm den,
    roundHalfEven_mul_right hfactor]

theorem nearest_le_nearest (hden : 0 < den) (hden' : 0 < den') (hle : num * den' ≤ num' * den) :
    nearest num den ≤ nearest num' den' := by
  calc nearest num den = nearest (num * den') (den * den') := (nearest_mul_right hden').symm
    _ ≤ nearest (num' * den) (den * den') := nearest_mono (Nat.mul_pos hden hden') hle
    _ = nearest (num' * den) (den' * den) := by rw [Nat.mul_comm den]
    _ = nearest num' den' := nearest_mul_right hden

theorem nearest_eq_nearest (hden : 0 < den) (hden' : 0 < den') (heq : num * den' = num' * den) :
    nearest num den = nearest num' den' :=
  Nat.le_antisymm (nearest_le_nearest hden hden' heq.le) (nearest_le_nearest hden' hden heq.ge)

end Quotients

end Binary64

end DotQuery

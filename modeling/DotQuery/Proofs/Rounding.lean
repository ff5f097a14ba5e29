import DotQuery.Proofs.Extremes
import DotQuery.Proofs.SafeInteger
import Mathlib.Algebra.Order.Ring.Int

/-!
# Rounding keeps the order

A greater number is never rounded to a lesser one. Within a stretch of equal spacing this is so for
the quotients by the spacing, and between two stretches lies a power of two that neither number can
be rounded across. So integers stand in the order of their doubles, but for those that share one,
and up to `2 ^ 53` no two integers do.
-/

namespace DotQuery.Binary64

/-! ### Quotients -/

section Quotients

variable {num larger den count : Nat}

theorem div_le_roundHalfEven (num den : Nat) : num / den ≤ roundHalfEven num den := by
  unfold roundHalfEven
  dsimp only
  split
  · omega
  split <;> omega

theorem roundHalfEven_mul (hden : 0 < den) (count : Nat) :
    roundHalfEven (count * den) den = count := by
  unfold roundHalfEven
  dsimp only
  rw [Nat.mul_mod_left, Nat.mul_div_cancel _ hden, if_pos (by omega)]

theorem roundHalfEven_mono (hle : num ≤ larger) :
    roundHalfEven num den ≤ roundHalfEven larger den := by
  by_cases hquotient : num / den < larger / den
  · calc roundHalfEven num den ≤ num / den + 1 := roundHalfEven_le num den
      _ ≤ larger / den := hquotient
      _ ≤ roundHalfEven larger den := div_le_roundHalfEven larger den
  · have hsame : num / den = larger / den :=
      Nat.le_antisymm (Nat.div_le_div_right hle) (Nat.le_of_not_lt hquotient)
    have hmod : num % den ≤ larger % den := by
      have hnum := Nat.div_add_mod num den
      have hlarger := Nat.div_add_mod larger den
      rw [hsame] at hnum
      omega
    unfold roundHalfEven
    dsimp only
    rw [hsame]
    split_ifs <;> omega

theorem roundHalfEven_le_of_le_mul (hden : 0 < den) (hle : num ≤ count * den) :
    roundHalfEven num den ≤ count := by
  calc roundHalfEven num den ≤ roundHalfEven (count * den) den := roundHalfEven_mono hle
    _ = count := roundHalfEven_mul hden count

theorem le_roundHalfEven_of_mul_le (hden : 0 < den) (hle : count * den ≤ num) :
    count ≤ roundHalfEven num den := by
  calc count = roundHalfEven (count * den) den := (roundHalfEven_mul hden count).symm
    _ ≤ roundHalfEven num den := roundHalfEven_mono hle

end Quotients

/-! ### Magnitudes -/

section Magnitudes

variable {num larger den exponent : Nat}

theorem spacing_pos (units : Nat) : 0 < spacing units :=
  Nat.two_pow_pos _

theorem log2_mono {units others : Nat} (hle : units ≤ others) : units.log2 ≤ others.log2 := by
  by_cases hzero : units = 0
  · rw [hzero, Nat.log2_zero]
    exact Nat.zero_le _
  · apply (Nat.le_log2 (by omega)).mpr
    exact (Nat.log2_self_le hzero).trans hle

theorem two_pow_eq_mul_spacing {units : Nat} (hexponent : units.log2 - 52 ≤ exponent) :
    2 ^ exponent = 2 ^ (exponent - (units.log2 - 52)) * spacing units := by
  unfold spacing
  rw [Nat.pow_eq, ← Nat.pow_add, Nat.sub_add_cancel hexponent]

/-- A power of two on the grid is not crossed from below. -/
theorem nearest_le_two_pow (hden : 0 < den) (hexponent : (num / den).log2 - 52 ≤ exponent)
    (hle : num ≤ 2 ^ exponent * den) : nearest num den ≤ 2 ^ exponent := by
  have hgrid := two_pow_eq_mul_spacing hexponent
  rw [hgrid]
  apply Nat.mul_le_mul_right
  apply roundHalfEven_le_of_le_mul (Nat.mul_pos hden (spacing_pos _))
  calc num ≤ 2 ^ exponent * den := hle
    _ = _ := by rw [hgrid]; ac_rfl

theorem two_pow_le_nearest (hden : 0 < den) (hexponent : (num / den).log2 - 52 ≤ exponent)
    (hle : 2 ^ exponent * den ≤ num) : 2 ^ exponent ≤ nearest num den := by
  have hgrid := two_pow_eq_mul_spacing hexponent
  rw [hgrid]
  apply Nat.mul_le_mul_right
  apply le_roundHalfEven_of_mul_le (Nat.mul_pos hden (spacing_pos _))
  calc _ = 2 ^ exponent * den := by rw [hgrid]; ac_rfl
    _ ≤ num := hle

theorem nearest_mono (hden : 0 < den) (hle : num ≤ larger) :
    nearest num den ≤ nearest larger den := by
  have hquotient : num / den ≤ larger / den := Nat.div_le_div_right hle
  by_cases hstep : spacing (num / den) = spacing (larger / den)
  · unfold nearest
    dsimp only
    rw [hstep]
    exact Nat.mul_le_mul_right _ (roundHalfEven_mono hle)
  · -- the larger number lies in a later stretch, which starts at a power of two
    have hlog : (num / den).log2 ≤ (larger / den).log2 := log2_mono hquotient
    have hlater : (num / den).log2 - 52 < (larger / den).log2 - 52 := by
      apply lt_of_le_of_ne (by omega)
      intro heq
      exact hstep (congrArg (Nat.pow 2) heq)
    have hpos : larger / den ≠ 0 := by
      intro hzero
      rw [hzero, Nat.log2_zero] at hlater
      omega
    have hbelow : num / den < 2 ^ (larger / den).log2 := by
      by_cases hzero : num / den = 0
      · rw [hzero]
        exact Nat.two_pow_pos _
      · exact (Nat.log2_lt hzero).mp (by omega)
    have habove : 2 ^ (larger / den).log2 ≤ larger / den := Nat.log2_self_le hpos
    calc nearest num den ≤ 2 ^ (larger / den).log2 := by
          apply nearest_le_two_pow hden (by omega)
          exact Nat.le_of_lt ((Nat.div_lt_iff_lt_mul hden).mp hbelow)
      _ ≤ nearest larger den := by
          apply two_pow_le_nearest hden (by omega)
          exact (Nat.le_div_iff_mul_le hden).mp habove

end Magnitudes

/-! ### Integers -/

section Integers

variable {n m scaled greater : Int}

theorem place_ofRatio (negative : Bool) (num den : Nat) :
    (ofRatio negative num den).place =
      if negative then -((min (nearest num den) limit : Nat) : Int)
      else (min (nearest num den) limit : Nat) := by
  unfold ofRatio
  split
  · next hfinite =>
      rw [min_eq_left hfinite.le]
      rfl
  · next hinfinite =>
      rw [min_eq_right (Nat.le_of_not_lt hinfinite)]
      rfl

theorem place_ofScaled_of_nonneg (zeroNegative : Bool) (hscaled : 0 ≤ scaled) :
    (ofScaled zeroNegative scaled).place = (min (nearest scaled.natAbs 1) limit : Nat) := by
  unfold ofScaled
  by_cases hzero : scaled = 0
  · rw [if_pos hzero, hzero]
    have hnearest : nearest 0 1 = 0 := by decide
    rw [Int.natAbs_zero, hnearest, Nat.zero_min]
    exact scaled_zero zeroNegative
  · have hsign : decide (scaled < 0) = false := decide_eq_false (by omega)
    rw [if_neg hzero, place_ofRatio, hsign]
    rfl

theorem place_ofScaled_neg (zeroNegative : Bool) (scaled : Int) :
    (ofScaled zeroNegative (-scaled)).place = -(ofScaled zeroNegative scaled).place := by
  unfold ofScaled
  by_cases hzero : scaled = 0
  · rw [hzero, if_pos Int.neg_zero, if_pos rfl]
    have hplace : (finite (.zero zeroNegative)).place = 0 := scaled_zero zeroNegative
    rw [hplace, Int.neg_zero]
  · rw [if_neg hzero, if_neg (by omega), place_ofRatio, place_ofRatio, Int.natAbs_neg]
    by_cases hsign : scaled < 0
    · rw [decide_eq_true hsign, decide_eq_false (by omega), if_pos rfl, if_neg Bool.false_ne_true,
        Int.neg_neg]
    · rw [decide_eq_false hsign, decide_eq_true (by omega), if_pos rfl, if_neg Bool.false_ne_true]

theorem place_ofScaled_mono (zeroNegative : Bool) (hle : scaled ≤ greater) :
    (ofScaled zeroNegative scaled).place ≤ (ofScaled zeroNegative greater).place := by
  have hnonneg {a b : Int} (ha : 0 ≤ a) (hab : a ≤ b) :
      (ofScaled zeroNegative a).place ≤ (ofScaled zeroNegative b).place := by
    rw [place_ofScaled_of_nonneg zeroNegative ha,
      place_ofScaled_of_nonneg zeroNegative (ha.trans hab), Int.ofNat_le]
    exact min_le_min_right _ (nearest_mono Nat.one_pos (by omega))
  have hpositive {a : Int} (ha : 0 ≤ a) : 0 ≤ (ofScaled zeroNegative a).place := by
    rw [place_ofScaled_of_nonneg zeroNegative ha]
    exact Int.natCast_nonneg _
  have hopposite (a : Int) :
      (ofScaled zeroNegative a).place = -(ofScaled zeroNegative (-a)).place := by
    rw [place_ofScaled_neg, Int.neg_neg]
  rcases le_total 0 scaled with hscaled | hscaled
  · exact hnonneg hscaled hle
  · rw [hopposite scaled]
    rcases le_total 0 greater with hgreater | hgreater
    · exact (Int.neg_nonpos_of_nonneg (hpositive (by omega))).trans (hpositive hgreater)
    · rw [hopposite greater]
      exact Int.neg_le_neg (hnonneg (by omega) (by omega))

theorem isNaN_ofInt (n : Int) : (ofInt n).isNaN = false :=
  isNaN_ofScaled false _

theorem place_ofInt_mono (hle : n ≤ m) : (ofInt n).place ≤ (ofInt m).place :=
  place_ofScaled_mono false (Int.mul_le_mul_of_nonneg_right hle (Int.natCast_nonneg _))

theorem place_ofInt_of_natAbs_le (hn : n.natAbs ≤ 2 ^ 53) : (ofInt n).place = n * one := by
  have hrepresentable : Representable (n.natAbs * one) := by
    rcases Nat.lt_or_eq_of_le hn with hlt | heq
    · exact ⟨spacing_dvd_mul_one hlt, mul_one_lt_limit hlt⟩
    · rw [heq]
      decide +kernel
  obtain ⟨x, hx, hscaled⟩ := exists_ofInt_eq_of_representable hrepresentable
  rw [hx]
  exact hscaled

theorem exists_ofInt_eq_finite (hn : n.natAbs < 2 ^ 64) : ∃ x, ofInt n = .finite x := by
  have hunits : (n * (one : Int)).natAbs ≤ 2 ^ (64 + oneExponent) := by
    calc (n * (one : Int)).natAbs = n.natAbs * one := by
          rw [Int.natAbs_mul, Int.natAbs_natCast]
      _ ≤ 2 ^ 64 * one := Nat.mul_le_mul_right one hn.le
      _ = 2 ^ (64 + oneExponent) := by rw [one_eq, Nat.pow_eq, ← Nat.pow_add]
  have hlog : (n * (one : Int)).natAbs.log2 ≤ 64 + oneExponent := by
    calc (n * (one : Int)).natAbs.log2 ≤ (2 ^ (64 + oneExponent)).log2 := log2_mono hunits
      _ = 64 + oneExponent := Nat.log2_two_pow
  have hnearest : nearest (n * (one : Int)).natAbs 1 < limit := by
    calc nearest (n * (one : Int)).natAbs 1 ≤ 2 ^ (64 + oneExponent) := by
          apply nearest_le_two_pow Nat.one_pos
          · rw [Nat.div_one]
            omega
          · rwa [Nat.mul_one]
      _ < limit := by
          unfold limit
          generalize oneExponent = unit
          exact Nat.pow_lt_pow_right Nat.one_lt_two (by omega)
  unfold ofInt ofScaled
  split
  · exact ⟨_, rfl⟩
  · rw [ofRatio, dif_pos hnearest]
    exact ⟨_, rfl⟩

/-- An integer below `2 ^ 53` shares its double with no other one: its neighbours still have doubles
of their own, and the order is kept. -/
theorem eq_of_place_ofInt_eq (hm : m.natAbs < 2 ^ 53) (hplace : (ofInt n).place = (ofInt m).place) :
    n = m := by
  have hone : (0 : Int) < one := Int.natCast_pos.mpr one_pos
  have hexact {k : Int} (hk : k.natAbs ≤ 2 ^ 53) := place_ofInt_of_natAbs_le hk
  rw [hexact hm.le] at hplace
  apply le_antisymm
  · by_contra hgreater
    have hnext := place_ofInt_mono (show m + 1 ≤ n by omega)
    rw [hexact (show (m + 1).natAbs ≤ 2 ^ 53 by omega), hplace, Int.add_mul] at hnext
    omega
  · by_contra hless
    have hnext := place_ofInt_mono (show n ≤ m - 1 by omega)
    rw [hexact (show (m - 1).natAbs ≤ 2 ^ 53 by omega), hplace, Int.sub_mul] at hnext
    omega

theorem ofInt_eq_iff_place_eq : ofInt n = ofInt m ↔ (ofInt n).place = (ofInt m).place := by
  refine ⟨congrArg place, fun hplace => ?_⟩
  have halike := alike_of_place_eq (isNaN_ofInt n) (isNaN_ofInt m) hplace
  generalize hleft : ofInt n = left, hright : ofInt m = right at halike
  cases halike with
  | same => rfl
  | zeros s t =>
      have hzero {k : Int} {negative : Bool} (hk : ofInt k = .finite (.zero negative)) : k = 0 := by
        apply eq_of_place_ofInt_eq (show (0 : Int).natAbs < 2 ^ 53 by decide)
        rw [hk, place_ofInt_of_natAbs_le (show (0 : Int).natAbs ≤ 2 ^ 53 by decide), Int.zero_mul]
        exact scaled_zero negative
      rw [← hleft, ← hright, hzero hleft, hzero hright]

/-- Integers compare as they are, unless they share a double. -/
theorem compare?_ofInt (n m : Int) :
    compare? (ofInt n) (ofInt m) = some (if ofInt n = ofInt m then .eq else compare n m) := by
  rw [compare?_eq_compare_place (isNaN_ofInt n) (isNaN_ofInt m), Option.some.injEq]
  by_cases hsame : ofInt n = ofInt m
  · rw [if_pos hsame, hsame]
    exact Int.compare_eq_eq.mpr rfl
  · rw [if_neg hsame]
    rw [ofInt_eq_iff_place_eq] at hsame
    rcases lt_trichotomy n m with hlt | rfl | hgt
    · rw [Int.compare_eq_lt.mpr hlt, Int.compare_eq_lt]
      exact lt_of_le_of_ne (place_ofInt_mono hlt.le) hsame
    · exact absurd rfl hsame
    · rw [Int.compare_eq_gt.mpr hgt, Int.compare_eq_gt]
      exact lt_of_le_of_ne (place_ofInt_mono hgt.le) (Ne.symm hsame)

theorem Alike.compare?_eq {a b b' : Binary64} (halike : Alike b b') :
    compare? a b = compare? a b' := by
  cases halike with
  | same => rfl
  | zeros s t =>
      cases a with
      | nan | infinite _ => rfl
      | finite x => simp only [compare?, scaled_zero]

end Integers

end DotQuery.Binary64

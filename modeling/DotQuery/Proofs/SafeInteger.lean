import DotQuery.Json.Basic

/-!
# Integers as double-precision numbers

Rounding leaves alone what is representable. An integer of less than 53 binary places is, so it is
read exactly from either kind of JSON number.
-/

namespace DotQuery

namespace Binary64

variable {units : Nat} {n : Int} {x : Finite64}

theorem nearest_of_spacing_dvd (hspacing : spacing units ∣ units) : nearest units 1 = units := by
  have hpos : 0 < spacing units := Nat.two_pow_pos _
  unfold nearest roundHalfEven
  simp only [Nat.div_one, Nat.one_mul, Nat.mod_eq_zero_of_dvd hspacing, Nat.mul_zero, if_pos hpos]
  exact Nat.div_mul_cancel hspacing

theorem one_eq : one = Nat.pow 2 oneExponent := by
  unfold one
  rfl

theorem mul_one_lt {count exponent : Nat} (hcount : count < Nat.pow 2 53)
    (hexponent : 53 ≤ exponent) : count * one < Nat.pow 2 (exponent + oneExponent) := by
  have hone := one_pos
  rw [one_eq] at hone ⊢
  generalize oneExponent = unit at hone ⊢
  calc count * Nat.pow 2 unit < Nat.pow 2 exponent * Nat.pow 2 unit :=
        Nat.mul_lt_mul_of_pos_right
          (Nat.lt_of_lt_of_le hcount (Nat.pow_le_pow_right (by decide) hexponent)) hone
    _ = Nat.pow 2 (exponent + unit) := (Nat.pow_add 2 exponent unit).symm

theorem spacing_dvd_mul_one {count : Nat} (hcount : count < Nat.pow 2 53) :
    spacing (count * one) ∣ count * one := by
  have hone := spacing_of_lt (mul_one_lt hcount (Nat.le_refl 53))
  rw [← one_eq] at hone
  exact Nat.dvd_trans hone (Nat.dvd_mul_left _ _)

theorem mul_one_lt_limit {count : Nat} (hcount : count < Nat.pow 2 53) : count * one < limit := by
  unfold limit
  exact mul_one_lt hcount (by decide)

theorem exists_ofInt_eq_of_representable (hn : Representable (n.natAbs * one)) :
    ∃ x, ofInt n = .finite x ∧ x.scaled = n * one := by
  unfold ofInt ofScaled
  by_cases hzero : n * (one : Int) = 0
  · rw [if_pos hzero]
    exact ⟨.zero false, rfl, hzero.symm⟩
  · have habs : (n * (one : Int)).natAbs = n.natAbs * one := by
      rw [Int.natAbs_mul, Int.natAbs_natCast]
    have hnearest := nearest_of_spacing_dvd hn.1
    have hfinite : nearest (n * (one : Int)).natAbs 1 < limit := by
      rw [habs, hnearest]
      exact hn.2
    rw [if_neg hzero, ofRatio, dif_pos hfinite]
    refine ⟨_, rfl, ?_⟩
    simp only [Finite64.scaled, decide_eq_true_eq]
    rw [← habs] at hnearest
    rw [hnearest]
    split <;> omega

theorem exists_ofInt_eq (hn : n.natAbs < Nat.pow 2 53) :
    ∃ x, ofInt n = .finite x ∧ x.scaled = n * one :=
  exists_ofInt_eq_of_representable ⟨spacing_dvd_mul_one hn, mul_one_lt_limit hn⟩

theorem truncate_of_scaled (hscaled : x.scaled = n * one) : x.truncate = n := by
  have hone : (one : Int) ≠ 0 := Int.natCast_ne_zero.mpr (Nat.pos_iff_ne_zero.mp one_pos)
  unfold Finite64.scaled at hscaled
  unfold Finite64.truncate
  cases hsign : x.negative with
  | false =>
      simp only [hsign, Bool.false_eq_true, ↓reduceIte] at hscaled ⊢
      rw [hscaled, Int.mul_ediv_cancel _ hone]
  | true =>
      simp only [hsign, ↓reduceIte] at hscaled ⊢
      have hunits : (x.units : Int) = -n * one := by
        rw [Int.neg_mul, ← hscaled, Int.neg_neg]
      rw [hunits, Int.mul_ediv_cancel _ hone, Int.neg_neg]

theorem ofBinary64_of_scaled (hscaled : x.scaled = n * one) (hn : n.natAbs < Nat.pow 2 53) :
    Json.ofBinary64 (.finite x) = .ofInt n := by
  have hunits : x.units = n.natAbs * one := by
    calc x.units = x.scaled.natAbs := by
          unfold Finite64.scaled
          split <;> simp
      _ = n.natAbs * one := by rw [hscaled, Int.natAbs_mul, Int.natAbs_natCast]
  have hintegral : x.isIntegral = true := by
    rw [Finite64.isIntegral, hunits, Nat.mul_mod_left]
    rfl
  have hsafe : x.units ≤ Json.maxSafeInteger * one := by
    rw [hunits]
    exact Nat.mul_le_mul_right one (Nat.le_of_lt_succ hn)
  rw [Json.ofBinary64, hintegral, decide_eq_true hsafe, Bool.true_and, if_pos rfl,
    truncate_of_scaled hscaled]

/-- An integer of safe magnitude is computed as itself. -/
theorem ofBinary64_ofInt (hn : n.natAbs < Nat.pow 2 53) :
    Json.ofBinary64 (.ofInt n) = .ofInt n := by
  obtain ⟨x, hx, hscaled⟩ := exists_ofInt_eq hn
  rw [hx, ofBinary64_of_scaled hscaled hn]

end Binary64

namespace Number

variable {n : Number} {value : Int}

/-- The number is the integer, be it held as one or as a double-precision number. -/
def Denotes : Number → Int → Prop
  | .int n _, value => n = value
  | .float x, value => x.scaled = value * Binary64.one

theorem Denotes.eq {other : Int} (hn : n.Denotes value) (hother : n.Denotes other) :
    value = other := by
  cases n with
  | int n hword => exact Eq.trans (Eq.symm hn) hother
  | float x =>
      have hone : (Binary64.one : Int) ≠ 0 :=
        Int.natCast_ne_zero.mpr (Nat.pos_iff_ne_zero.mp Binary64.one_pos)
      exact Int.eq_of_mul_eq_mul_right hone (Eq.trans (Eq.symm hn) hother)

theorem Denotes.exists_scaled_eq (hn : n.Denotes value) (hvalue : value.natAbs < Nat.pow 2 53) :
    ∃ x, n.toBinary64 = .finite x ∧ x.scaled = value * Binary64.one := by
  cases n with
  | int n hword =>
      obtain rfl : n = value := hn
      exact Binary64.exists_ofInt_eq hvalue
  | float x => exact ⟨x, rfl, hn⟩

theorem Denotes.exists_truncate_eq (hn : n.Denotes value) (hvalue : value.natAbs < Nat.pow 2 53) :
    ∃ x, n.toBinary64 = .finite x ∧ x.truncate = value := by
  obtain ⟨x, hx, hscaled⟩ := hn.exists_scaled_eq hvalue
  exact ⟨x, hx, Binary64.truncate_of_scaled hscaled⟩

end Number

end DotQuery

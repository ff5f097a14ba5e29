/-!
Magnitudes of double-precision numbers, counted in units of `2 ^ -1074`, the least positive one.
Up to `2 ^ 53` units every whole count is representable; from there the spacing doubles with each
power of two. A quotient of two counts is rounded to the nearest representable one, a tie going to
the even multiple of the spacing.
-/

namespace DotQuery.Binary64

/-- The distance between the neighbouring representable counts around `units`. -/
def spacing (units : Nat) : Nat :=
  Nat.pow 2 (units.log2 - 52)

/-- The power of two by which the number one exceeds the unit. -/
def oneExponent : Nat := 1074

/-- The count that stands for the number one. -/
def one : Nat := Nat.pow 2 oneExponent

/-- The first count beyond the finite numbers, which stands for `2 ^ 1024`. -/
def limit : Nat := Nat.pow 2 (1024 + oneExponent)

theorem one_pos : 0 < one := by
  unfold one
  exact Nat.two_pow_pos oneExponent

theorem limit_pos : 0 < limit := by
  unfold limit
  exact Nat.two_pow_pos (1024 + oneExponent)

def Representable (units : Nat) : Prop :=
  spacing units ∣ units ∧ units < limit

instance (units : Nat) : Decidable (Representable units) :=
  inferInstanceAs (Decidable (_ ∧ _))

/-- The whole number nearest to `num / den`, the even one of two at the same distance. -/
def roundHalfEven (num den : Nat) : Nat :=
  let quotient := num / den
  let doubled := 2 * (num % den)
  if doubled < den then quotient
  else if den < doubled then quotient + 1
  else quotient + quotient % 2

/-- The multiple of the local spacing that is nearest to `num / den` units. -/
def nearest (num den : Nat) : Nat :=
  let step := spacing (num / den)
  roundHalfEven num (den * step) * step

theorem roundHalfEven_le (num den : Nat) : roundHalfEven num den ≤ num / den + 1 := by
  unfold roundHalfEven
  dsimp only
  split
  · omega
  split
  · omega
  · have := Nat.mod_lt (num / den) (by decide : 2 > 0)
    omega

theorem spacing_of_lt {units exponent : Nat} (h : units < Nat.pow 2 (53 + exponent)) :
    spacing units ∣ Nat.pow 2 exponent := by
  unfold spacing
  apply Nat.pow_dvd_pow
  by_cases hz : units = 0
  · subst hz
    simp
  · have := (Nat.log2_lt hz).2 h
    omega

theorem div_spacing_lt (units : Nat) : units / spacing units < Nat.pow 2 53 := by
  unfold spacing
  simp only [Nat.pow_eq]
  rw [Nat.div_lt_iff_lt_mul (Nat.two_pow_pos _), ← Nat.pow_add]
  have hlog : units < 2 ^ (units.log2 + 1) := Nat.lt_log2_self
  exact Nat.lt_of_lt_of_le hlog (Nat.pow_le_pow_right (by decide) (by omega))

/-- A rounded magnitude is a multiple of the spacing at its own place, also where rounding up has
crossed into a coarser stretch. -/
theorem spacing_dvd_nearest (num den : Nat) : spacing (nearest num den) ∣ nearest num den := by
  have hsteps : roundHalfEven num (den * spacing (num / den)) ≤ 2 ^ 53 := by
    have hquotient : num / (den * spacing (num / den)) < 2 ^ 53 := by
      rw [← Nat.div_div_eq_div_mul]
      exact div_spacing_lt (num / den)
    have := roundHalfEven_le num (den * spacing (num / den))
    omega
  unfold nearest
  dsimp only
  generalize roundHalfEven num (den * spacing (num / den)) = steps at hsteps
  have hstep : spacing (num / den) = 2 ^ ((num / den).log2 - 52) := rfl
  generalize (num / den).log2 - 52 = exponent at hstep
  rw [hstep]
  rcases Nat.lt_or_ge steps (2 ^ 53) with hlt | hge
  · apply Nat.dvd_trans (spacing_of_lt _) (Nat.dvd_mul_left _ _)
    rw [Nat.pow_eq, Nat.pow_add]
    exact Nat.mul_lt_mul_of_pos_right hlt (Nat.two_pow_pos _)
  · have heq : steps = 2 ^ 53 := by omega
    rw [heq, ← Nat.pow_add]
    have hpow : 2 ^ (53 + exponent) < 2 ^ (53 + (1 + exponent)) :=
      Nat.pow_lt_pow_right (by decide) (by omega)
    exact Nat.dvd_trans (spacing_of_lt hpow) (Nat.pow_dvd_pow 2 (by omega))

end DotQuery.Binary64

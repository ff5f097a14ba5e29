import DotQuery.Proofs.ExactValue

/-!
# Rounding half up in double precision

Adding one half and taking the floor rounds half up as long as the sum does not reach the next
integer. It never does below `2 ^ 52`, but for the greatest number below one half, because another
number lies between the exact sum and that integer. From `2 ^ 52` on the sum is a tie between two
integers, and even numbers stay.
-/

namespace DotQuery

namespace Binary64

variable {x y : Finite64} {q s v : ℚ} {exponent : Nat} {n : Int}

/-- The nearest integer, the greater one of two at the same distance. -/
def halfUp (q : ℚ) : Int :=
  ⌊q + 1 / 2⌋

theorem halfUp_eq_iff : halfUp q = n ↔ n - 1 / 2 ≤ q ∧ q < n + 1 / 2 := by
  rw [halfUp, Int.floor_eq_iff]
  constructor <;> rintro ⟨hlow, hhigh⟩ <;> constructor <;> linarith

theorem halfUp_intCast (n : Int) : halfUp n = n := by
  rw [halfUp_eq_iff]
  constructor <;> linarith

/-! ### Fractions of a power of two -/

theorem exists_fraction (hx : |x.value| < 2 ^ 52) :
    ∃ (numerator : Int) (places : Nat), |numerator| < 2 ^ 53 ∧ places < oneExponent ∧
      x.value = numerator / 2 ^ (places + 1) := by
  have hunits : x.units < 2 ^ (52 + oneExponent) := by
    have hscaled := mul_lt_mul_of_pos_right hx one_cast_pos
    rw [abs_value_mul_one, one_cast, ← pow_add] at hscaled
    exact_mod_cast hscaled
  have hlog : x.units.log2 - 52 < oneExponent := by
    have hpos : 0 < oneExponent := by decide
    by_cases hzero : x.units = 0
    · rwa [hzero, Nat.log2_zero]
    · have := (Nat.log2_lt hzero).mpr hunits
      omega
  obtain ⟨count, hcount⟩ := x.representable.1
  have hbelow : count < 2 ^ 53 := by
    have hdiv := div_spacing_lt x.units
    nth_rewrite 1 [hcount] at hdiv
    rwa [Nat.mul_div_cancel_left _ (spacing_pos _)] at hdiv
  refine ⟨if x.negative then -count else count, oneExponent - (x.units.log2 - 52) - 1, ?_,
    by omega, ?_⟩
  · split <;> simp only [abs_neg, Nat.abs_cast] <;> exact_mod_cast hbelow
  · have hone : (one : ℚ) = 2 ^ (oneExponent - (x.units.log2 - 52) - 1 + 1) * spacing x.units := by
      rw [one_cast, spacing, Nat.pow_eq, Nat.cast_pow, Nat.cast_ofNat, ← pow_add]
      congr 1
      omega
    have hspacing : (spacing x.units : ℚ) ≠ 0 := Nat.cast_ne_zero.mpr (spacing_pos _).ne'
    have hunits : (x.units : ℚ) = spacing x.units * count := by exact_mod_cast hcount
    have hscaled : (x.scaled : ℚ) =
        spacing x.units * (if x.negative then -count else count : Int) := by
      unfold Finite64.scaled
      split
      · push_cast
        rw [hunits]
        ring
      · rw [Int.cast_natCast, Int.cast_natCast, hunits]
    rw [Finite64.value, hscaled, hone]
    field_simp

/-! ### Adding one half -/

/-- Just past a power of two the one half above that power is still below the next integer. -/
theorem exists_between_of_passed {rest : Nat} (hrest : rest ≤ 51) (hle : q ≤ 2 ^ rest)
    (hpassed : 2 ^ rest ≤ q + 1 / 2) :
    ∃ r : Finite64, q + 1 / 2 ≤ r.value ∧ r.value < halfUp q + 1 := by
  have hcount : (2 * 2 ^ rest + 1 : Int).natAbs ≤ 2 ^ 53 := by
    have hrestLe : (2 : Int) ^ rest ≤ 2 ^ 51 := pow_le_pow_right₀ (by decide) hrest
    have hrestPos : (0 : Int) < 2 ^ rest := by positivity
    omega
  obtain ⟨r, hr⟩ := exists_value_eq hcount (by decide : 1 ≤ oneExponent)
  have hfloor : ((2 ^ rest : Int) : ℚ) ≤ halfUp q :=
    Int.cast_le.mpr (Int.le_floor.mpr (by exact_mod_cast hpassed))
  push_cast at hr hfloor
  refine ⟨r, ?_, ?_⟩ <;> rw [hr] <;> linarith

theorem exists_between_of_le (hlow : 0 ≤ q + 1 / 2) (hle : q ≤ 1 / 2 - 1 / 2 ^ 53) :
    ∃ r : Finite64, q + 1 / 2 ≤ r.value ∧ r.value < halfUp q + 1 := by
  obtain ⟨r, hr⟩ := exists_value_eq (by decide : (2 ^ 53 - 1 : Int).natAbs ≤ 2 ^ 53)
    (by decide : 53 ≤ oneExponent)
  have hfloor : (0 : ℚ) ≤ halfUp q := by exact_mod_cast Int.floor_nonneg.mpr hlow
  push_cast at hr
  refine ⟨r, ?_, ?_⟩ <;> rw [hr] <;> linarith

/-- With more than 52 places behind the point only the greatest number below one half comes so close
to it. -/
theorem fraction_le {numerator : Int} {places : Nat} (hnumerator : numerator < 2 ^ 53)
    (hplaces : 52 < places) (hne : (numerator : ℚ) / 2 ^ (places + 1) ≠ 1 / 2 - 1 / 2 ^ 54) :
    (numerator : ℚ) / 2 ^ (places + 1) ≤ 1 / 2 - 1 / 2 ^ 53 := by
  rw [div_le_iff₀ (by positivity)]
  obtain ⟨rest, rfl⟩ := Nat.exists_eq_add_of_le hplaces
  cases rest with
  | zero =>
      have hnumeratorNe : numerator ≠ 2 ^ 53 - 1 := by
        rintro rfl
        apply hne
        norm_num
      have hnumeratorLe : numerator ≤ 2 ^ 53 - 2 := by omega
      have hcast : (numerator : ℚ) ≤ 2 ^ 53 - 2 := by exact_mod_cast hnumeratorLe
      linarith
  | succ rest =>
      have hcast : (numerator : ℚ) < 2 ^ 53 := by exact_mod_cast hnumerator
      have hrest : (1 : ℚ) ≤ 2 ^ rest := one_le_pow₀ (by decide)
      have hpower : (2 : ℚ) ^ (52 + 1 + (rest + 1) + 1) = 2 ^ 55 * 2 ^ rest := by ring
      rw [hpower]
      linarith

/-- Between the exact sum and the next integer lies a number, so rounding does not reach that
integer. Where the sum has too many digits it has just passed a power of two, or it lies below
one. -/
theorem exists_between (hx : |x.value| < 2 ^ 52) (hne : x.value ≠ 1 / 2 - 1 / 2 ^ 54) :
    ∃ r : Finite64, x.value + 1 / 2 ≤ r.value ∧ r.value < halfUp x.value + 1 := by
  obtain ⟨numerator, places, hnumerator, hplaces, hvalue⟩ := exists_fraction hx
  have hsum : x.value + 1 / 2 = (numerator + 2 ^ places : Int) / 2 ^ (places + 1) := by
    rw [hvalue]
    push_cast
    field_simp
    ring
  by_cases hshort : (numerator + 2 ^ places).natAbs ≤ 2 ^ 53
  · obtain ⟨r, hr⟩ := exists_value_eq hshort (by omega : places + 1 ≤ oneExponent)
    have hnext : x.value + 1 / 2 < halfUp x.value + 1 := Int.lt_floor_add_one _
    exact ⟨r, by rw [hr, hsum], by rwa [hr, ← hsum]⟩
  · have hnumerator := abs_lt.mp hnumerator
    have hlarge : 2 ^ 53 < numerator + 2 ^ places := by
      have hpower : 0 < (2 : Int) ^ places := by positivity
      omega
    have hlow : (2 : ℚ) ^ 53 < (numerator + 2 ^ places : Int) := by exact_mod_cast hlarge
    have hbelow : (numerator : ℚ) < 2 ^ 53 := by exact_mod_cast hnumerator.2
    rcases le_or_gt places 52 with hle | hgt
    · obtain ⟨rest, hrest⟩ := Nat.exists_eq_add_of_le hle
      have hsplit : (2 : ℚ) ^ 52 = 2 ^ places * 2 ^ rest := by rw [← pow_add, ← hrest]
      have hplaces : places ≠ 0 := by
        rintro rfl
        omega
      apply exists_between_of_passed (by omega : rest ≤ 51)
      · rw [hvalue, div_le_iff₀ (by positivity), pow_succ]
        linarith
      · rw [hsum, le_div_iff₀ (by positivity), pow_succ]
        linarith
    · apply exists_between_of_le
      · rw [hsum]
        exact div_nonneg (by linarith) (by positivity)
      · rw [hvalue] at hne ⊢
        exact fraction_le hnumerator.2 hgt hne

theorem exists_value_eq_intCast (hn : n.natAbs ≤ 2 ^ 53) : ∃ y : Finite64, y.value = n := by
  obtain ⟨y, hy⟩ := exists_value_eq hn (Nat.zero_le oneExponent)
  exact ⟨y, by rw [hy, pow_zero, div_one]⟩

theorem rounded?_intCast (hn : |n| ≤ 2 ^ 53) : rounded? n = some (n : ℚ) := by
  have hbounds := abs_le.mp hn
  obtain ⟨y, hy⟩ := exists_value_eq_intCast (by omega : n.natAbs ≤ 2 ^ 53)
  rw [← hy, rounded?_value]

/-- Half up rounding of a double by way of a rounded sum. -/
theorem exists_floor_eq_halfUp (hx : |x.value| < 2 ^ 52) (hne : x.value ≠ 1 / 2 - 1 / 2 ^ 54) :
    ∃ v, rounded? (x.value + 1 / 2) = some v ∧ ⌊v⌋ = halfUp x.value := by
  have hbounds := abs_lt.mp hx
  have hlow : (halfUp x.value : ℚ) ≤ x.value + 1 / 2 := Int.floor_le _
  have hnext : x.value + 1 / 2 < halfUp x.value + 1 := Int.lt_floor_add_one _
  obtain ⟨v, hv⟩ := exists_rounded?_add_half x
  obtain ⟨m, hm⟩ : ∃ m : Finite64, m.value = halfUp x.value := by
    apply exists_value_eq_intCast
    have hlow' : -2 ^ 53 ≤ halfUp x.value := by
      have : (-2 ^ 53 : ℚ) ≤ halfUp x.value := by linarith
      exact_mod_cast this
    have hhigh' : halfUp x.value ≤ 2 ^ 53 := by
      have : (halfUp x.value : ℚ) ≤ 2 ^ 53 := by linarith
      exact_mod_cast this
    omega
  obtain ⟨r, hsum, hr⟩ := exists_between hx hne
  refine ⟨v, hv, Int.floor_eq_iff.mpr ⟨?_, ?_⟩⟩
  · rw [← hm] at hlow ⊢
    exact le_rounded? hv hlow
  · exact (rounded?_le hv hsum).trans_lt hr

/-! ### Integers beyond the fractions -/

theorem exists_mul_of_le (hunits : 2 ^ (52 + exponent) ≤ x.units) :
    ∃ n : Int, x.value = n * (2 ^ exponent / one) := by
  obtain ⟨count, hcount⟩ := pow_dvd_units hunits
  refine ⟨if x.negative then -count else count, ?_⟩
  have hcast : (x.units : ℚ) = 2 ^ exponent * count := by exact_mod_cast hcount
  unfold Finite64.value Finite64.scaled
  split
  · push_cast
    rw [hcast]
    ring
  · push_cast
    rw [hcast]
    ring

theorem exists_two_mul_of_le (hx : 2 ^ 53 ≤ |x.value|) : ∃ n : Int, x.value = 2 * n := by
  have hunits : 2 ^ (52 + (oneExponent + 1)) ≤ x.units := by
    have hscaled := mul_le_mul_of_nonneg_right hx one_cast_pos.le
    rw [abs_value_mul_one, one_cast, ← pow_add] at hscaled
    rw [(by omega : 52 + (oneExponent + 1) = 53 + oneExponent)]
    exact_mod_cast hscaled
  obtain ⟨n, hn⟩ := exists_mul_of_le hunits
  refine ⟨n, ?_⟩
  rw [hn, pow_succ, ← one_cast, mul_div_cancel_left₀ _ one_cast_pos.ne', mul_comm]

theorem nearest_half {count : Nat} (hlow : 2 ^ 52 ≤ count) (hhigh : count < 2 ^ 53) :
    nearest ((2 * count + 1) * one) 2 = (count + count % 2) * one := by
  have hround : roundHalfEven (2 * count + 1) 2 = count + count % 2 := by
    unfold roundHalfEven
    dsimp only
    rw [if_neg (by omega), if_neg (by omega)]
    omega
  have hlog : ((2 * count + 1) * one / 2).log2 = 52 + oneExponent := by
    have hone : one = 2 ^ oneExponent := by rw [one_eq, Nat.pow_eq]
    have hbelow : 2 ^ (52 + oneExponent) ≤ (2 * count + 1) * one / 2 := by
      rw [Nat.le_div_iff_mul_le Nat.two_pos, Nat.pow_add, ← hone, Nat.mul_right_comm]
      exact Nat.mul_le_mul_right _ (by omega)
    have habove : (2 * count + 1) * one / 2 < 2 ^ (52 + oneExponent + 1) := by
      rw [Nat.div_lt_iff_lt_mul Nat.two_pos, Nat.add_right_comm, Nat.pow_add, ← hone,
        Nat.mul_right_comm]
      exact Nat.mul_lt_mul_of_pos_right (by omega) one_pos
    exact (Nat.log2_eq_iff (Nat.two_pow_pos _ |>.trans_le hbelow).ne').mpr ⟨hbelow, habove⟩
  have hspacing : spacing ((2 * count + 1) * one / 2) = one := by
    have hexponent : 52 + oneExponent - 52 = oneExponent := by omega
    rw [spacing, hlog, hexponent, one_eq]
  rw [nearest, hspacing, roundHalfEven_mul_right one_pos, hround]

/-- In magnitude the sum lies in the middle of a unit, and the even end of that unit is the even
integer. -/
theorem exists_count_of_even (heven : q = 2 * n) : ∃ count : Nat, |q| = (count + count % 2 : Nat) ∧
    |q + 1 / 2| = count + 1 / 2 ∧ (q + 1 / 2 < 0 ↔ q < 0) := by
  rcases lt_or_ge n 0 with hneg | hnonneg
  · obtain ⟨k, rfl⟩ : ∃ k : Nat, n = -(k + 1) := ⟨(-n - 1).toNat, by omega⟩
    have hk : (0 : ℚ) ≤ k := Nat.cast_nonneg k
    push_cast at heven
    refine ⟨2 * k + 1, ?_, ?_, ?_⟩
    · have hparity : 2 * k + 1 + (2 * k + 1) % 2 = 2 * k + 2 := by omega
      rw [heven, hparity, abs_of_neg (by linarith)]
      push_cast
      ring
    · rw [heven, abs_of_neg (by linarith)]
      push_cast
      ring
    · rw [heven]
      constructor <;> intro <;> linarith
  · obtain ⟨k, rfl⟩ := Int.eq_ofNat_of_zero_le hnonneg
    have hk : (0 : ℚ) ≤ k := Nat.cast_nonneg k
    push_cast at heven
    refine ⟨2 * k, ?_, ?_, ?_⟩
    · have hparity : 2 * k + (2 * k) % 2 = 2 * k := by omega
      rw [heven, hparity, abs_of_nonneg (by linarith)]
      push_cast
      ring
    · rw [heven, abs_of_nonneg (by linarith)]
      push_cast
      ring
    · rw [heven]
      constructor <;> intro <;> linarith

/-- From `2 ^ 53` on there are only even integers, and no other one is as near. -/
theorem rounded?_add_half_of_large (heven : x.value = 2 * n) (hlarge : 2 ^ 53 ≤ |x.value + 1 / 2|) :
    rounded? (x.value + 1 / 2) = some x.value := by
  obtain ⟨v, hv⟩ := exists_rounded?_add_half x
  obtain ⟨y, hy, rfl⟩ := value?_eq_some_iff.mp hv
  obtain ⟨m, hm⟩ := exists_two_mul_of_le (two_pow_le_rounded? hv hlarge)
  have hclose := rounded?_close hv x
  have hhalf : x.value - (x.value + 1 / 2) = -(1 / 2) := by ring
  rw [hhalf, abs_neg, abs_of_pos (by norm_num : (0 : ℚ) < 1 / 2), abs_le, hm, heven] at hclose
  have hlower : (n : ℚ) ≤ m := by linarith [hclose.1]
  have hupper : (m : ℚ) < n + 1 := by linarith [hclose.2]
  have hsame : m = n :=
    le_antisymm (Int.lt_add_one_iff.mp (by exact_mod_cast hupper)) (by exact_mod_cast hlower)
  rw [hv, hm, heven, hsame]

/-- One half more than an even integer is a tie that falls back to it. -/
theorem rounded?_add_half_of_even (hx : 2 ^ 52 < |x.value|) (heven : x.value = 2 * n) :
    rounded? (x.value + 1 / 2) = some x.value := by
  obtain ⟨count, habs, hsum, hsign⟩ := exists_count_of_even heven
  rcases lt_or_ge count (2 ^ 53) with htie | hlarge
  · have hlow : 2 ^ 52 ≤ count := by
      rw [habs] at hx
      have hcount : 2 ^ 52 < count + count % 2 := by exact_mod_cast hx
      omega
    have hquotient : |x.value + 1 / 2| * one = (((2 * count + 1) * one : Nat) : ℚ) / (2 : Nat) := by
      rw [hsum]
      push_cast
      ring
    apply rounded?_eq_of_place
    apply place_ofRat_of_magnitude _ hsign
    rw [magnitude_eq_nearest Nat.two_pos hquotient, nearest_half hlow htie]
    have hunits := abs_value_mul_one x
    rw [habs] at hunits
    exact_mod_cast hunits
  · apply rounded?_add_half_of_large heven
    have hcast : (2 : ℚ) ^ 53 ≤ count := by exact_mod_cast hlarge
    rw [hsum]
    linarith

/-- Beyond the fractions an even integer is rounded to an even integer. -/
theorem exists_even_of_rounded? {m : Int} (hs : rounded? (2 * m : Int) = some s)
    (hm : 2 ^ 52 < |2 * m|) : ∃ n : Int, s = 2 * n ∧ 2 ^ 52 < |s| := by
  rcases le_or_gt |2 * m| (2 ^ 53) with hsmall | hlarge
  · rw [rounded?_intCast hsmall] at hs
    obtain rfl : ((2 * m : Int) : ℚ) = s := Option.some.inj hs
    refine ⟨m, ?_, ?_⟩
    · push_cast
      rfl
    · exact_mod_cast hm
  · obtain ⟨y, -, rfl⟩ := value?_eq_some_iff.mp hs
    have hpassed : 2 ^ 53 ≤ |y.value| := by
      apply two_pow_le_rounded? hs
      exact_mod_cast hlarge.le
    obtain ⟨n, hn⟩ := exists_two_mul_of_le hpassed
    exact ⟨n, hn, lt_of_lt_of_le (by norm_num) hpassed⟩

/-! ### Half up after rounding -/

/-- The two halves around an integer need no rounding, so rounding first does not lead past them. -/
theorem rounded?_near_halfUp (hs : rounded? q = some s) (hq : |q| ≤ 2 ^ 52 - 1) :
    halfUp q - 1 / 2 ≤ s ∧ s ≤ halfUp q + 1 / 2 := by
  obtain ⟨hlow, hhigh⟩ := halfUp_eq_iff.mp (rfl : halfUp q = halfUp q)
  generalize halfUp q = m at *
  have hbounds := abs_le.mp hq
  have hm : -2 ^ 52 < m ∧ m < 2 ^ 52 := by
    have hmLow : (-2 ^ 52 : ℚ) < m := by linarith [hbounds.1]
    have hmHigh : (m : ℚ) < 2 ^ 52 := by linarith [hbounds.2]
    exact ⟨by exact_mod_cast hmLow, by exact_mod_cast hmHigh⟩
  obtain ⟨below, hbelow⟩ := exists_value_eq (by omega : (2 * m - 1).natAbs ≤ 2 ^ 53)
    (by decide : 1 ≤ oneExponent)
  obtain ⟨above, habove⟩ := exists_value_eq (by omega : (2 * m + 1).natAbs ≤ 2 ^ 53)
    (by decide : 1 ≤ oneExponent)
  push_cast at hbelow habove
  have hs' := le_rounded? hs (y := below) (by linarith)
  have hs'' := rounded?_le hs (y := above) (by linarith)
  constructor <;> linarith

theorem exists_two_pow_near (hq : 1 / 4 ≤ |q|) :
    ∃ exponent : Nat, |q| ≤ 2 ^ exponent ∧ 2 ^ exponent ≤ 4 * |q| := by
  rcases le_total |q| 1 with hle | hge
  · exact ⟨0, by simpa, by linarith⟩
  · obtain ⟨exponent, hlow, hhigh⟩ := exists_nat_pow_near hge one_lt_two
    refine ⟨exponent + 1, hhigh.le, ?_⟩
    rw [pow_succ]
    linarith

/-- A number with few places stays at least one unit of its last place below the next half. -/
theorem gap_le {count m : Int} {k : Nat} (hcount : q * 10 ^ (k + 1) = count)
    (hbelow : q < m + 1 / 2) :
    1 / 10 ^ (k + 1) ≤ m + 1 / 2 - q := by
  have hpower : (0 : ℚ) < 10 ^ (k + 1) := by positivity
  have hscaled := mul_lt_mul_of_pos_right hbelow hpower
  rw [hcount, pow_succ] at hscaled
  have hsteps : (count : ℚ) < ((10 * m + 5) * 10 ^ k : Int) := by
    push_cast
    linarith
  have hcast : (count : ℚ) + 1 ≤ (10 * m + 5) * 10 ^ k := by
    exact_mod_cast Int.add_one_le_of_lt (Int.cast_lt.mp hsteps)
  rw [div_le_iff₀ hpower, sub_mul, hcount, pow_succ]
  linarith

theorem one_quarter_le {m : Int} (hs : rounded? q = some s) (hhalf : s = m + 1 / 2) :
    1 / 4 ≤ |q| := by
  by_contra hnear
  have hbounds := abs_lt.mp (not_le.mp hnear)
  have hone : |q| ≤ 2 ^ 0 := by
    rw [pow_zero]
    linarith
  have herror := abs_le.mp (rounded?_error hs hone)
  have hlow : (-1 : ℚ) < m := by linarith [herror.1]
  have hhigh : (m : ℚ) < 0 := by linarith [herror.2]
  have hlow' : -1 < m := by exact_mod_cast hlow
  have hhigh' : m < 0 := by exact_mod_cast hhigh
  omega

/-- A decimal of fifteen digits that is not a half is too far from the next half to be rounded to
it. -/
theorem halfUp_rounded?_of_digits {count places : Int} (hs : rounded? q = some s)
    (hq : |q| ≤ 2 ^ 52 - 1) (hvalue : q = count * 10 ^ places) (hdigits : |count| < 10 ^ 15) :
    halfUp s = halfUp q := by
  obtain ⟨hlow, hhigh⟩ := rounded?_near_halfUp hs hq
  refine halfUp_eq_iff.mpr ⟨hlow, lt_of_le_of_ne hhigh fun hhalf => ?_⟩
  rcases le_or_gt 0 places with hwhole | hfraction
  · obtain ⟨k, rfl⟩ := Int.eq_ofNat_of_zero_le hwhole
    obtain ⟨n, rfl⟩ : ∃ n : Int, q = n := by
      refine ⟨count * 10 ^ k, ?_⟩
      rw [hvalue, zpow_natCast]
      push_cast
      rfl
    have hn : |n| ≤ 2 ^ 52 - 1 := by exact_mod_cast hq
    rw [rounded?_intCast (by omega)] at hs
    have hexact : (n : ℚ) = s := Option.some.inj hs
    rw [halfUp_intCast] at hhalf
    linarith
  · obtain ⟨k, rfl⟩ : ∃ k : Nat, places = -((k + 1 : Nat) : Int) := ⟨(-places - 1).toNat, by omega⟩
    have hpower : (0 : ℚ) < 10 ^ (k + 1) := by positivity
    have hcount : q * 10 ^ (k + 1) = count := by
      rw [hvalue, zpow_neg, zpow_natCast, inv_mul_cancel_right₀ hpower.ne']
    have hgap := gap_le hcount (halfUp_eq_iff.mp rfl).2
    obtain ⟨exponent, hle, hge⟩ := exists_two_pow_near (one_quarter_le hs hhalf)
    have herror := (abs_le.mp (rounded?_error hs hle)).2
    have hdigits' : |q| * 10 ^ (k + 1) ≤ 10 ^ 15 := by
      rw [← abs_of_pos hpower, ← abs_mul, hcount]
      exact_mod_cast hdigits.le
    have hsmall : |q| / 2 ^ 52 < 1 / 10 ^ (k + 1) := by
      rw [div_lt_div_iff₀ (by positivity) hpower]
      linarith
    linarith

end Binary64

end DotQuery

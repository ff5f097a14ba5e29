import DotQuery.Decimal.Shortest
import DotQuery.Proofs.DecimalValue

/-!
# Shortest decimals

The decimal that a number is written as reads back as that number. A grid of decimals on which only
one reads back settles which value is written: on a coarser grid nothing else can be found, and on
the grid itself the search looks at a neighbour between that decimal and the number.
-/

namespace DotQuery

open Binary64

namespace Decimal

variable {x : Finite64} {d : Decimal} {tie : Tie} {exact digits dropped : Nat} {q r : ℚ}

/-! ### Candidates -/

theorem readsBack_iff (hx : x.value ≠ 0) :
    d.toBinary64 = .finite x ↔ rounded? d.value = some x.value := by
  rw [← value?_toBinary64]
  constructor
  · intro hread
    rw [hread]
    rfl
  · intro hvalue
    obtain ⟨y, hy, hsame⟩ := value?_eq_some_iff.mp hvalue
    rw [hy, eq_of_value_eq hsame (hsame ▸ hx)]

theorem value_candidate (negative : Bool) (digits dropped : Nat) :
    (candidate negative digits dropped).value =
      sign negative * (digits * 10 ^ ((dropped : Int) - oneExponent)) :=
  rfl

theorem value_exactDigits (x : Finite64) :
    (candidate x.negative (exactDigits x.units) 0).value = x.value := by
  have hsign : (x.scaled : ℚ) = sign x.negative * x.units := by
    unfold Finite64.scaled sign
    split <;> push_cast <;> ring
  have hscale : (10 : ℚ) ^ oneExponent = 5 ^ oneExponent * 2 ^ oneExponent := by
    rw [← mul_pow]
    norm_num
  rw [value_candidate, Finite64.value, hsign, exactDigits, one_cast, Nat.pow_eq]
  generalize oneExponent = places at hscale ⊢
  rw [Nat.cast_zero, zero_sub, zpow_neg, zpow_natCast, hscale]
  push_cast
  field_simp

theorem abs_value_eq_exactDigits (x : Finite64) :
    |x.value| = exactDigits x.units * 10 ^ (-(oneExponent : Int)) := by
  rw [← value_exactDigits, abs_value, candidate, Nat.cast_zero, zero_sub]

/-- A decimal of a coarser grid belongs to each finer one. -/
theorem exists_value_candidate_eq {places : Nat} (negative : Bool) (digits : Nat)
    (hle : places ≤ dropped) : ∃ count : Int,
      (candidate negative digits dropped).value = count * 10 ^ ((places : Int) - oneExponent) := by
  have hgrid : (dropped : Int) - oneExponent =
      ((dropped - places : Nat) : Int) + (places - oneExponent) := by omega
  rw [value_candidate, hgrid, zpow_add₀ (by decide), zpow_natCast]
  generalize (10 : ℚ) ^ ((places : Int) - oneExponent) = unit
  cases negative with
  | false =>
      refine ⟨digits * 10 ^ (dropped - places), ?_⟩
      rw [sign, if_neg Bool.false_ne_true]
      push_cast
      ring
  | true =>
      refine ⟨-(digits * 10 ^ (dropped - places)), ?_⟩
      rw [sign, if_pos rfl]
      push_cast
      ring

theorem neighbour?_eq_some (hfound : neighbour? tie x exact dropped = some d) :
    d.toBinary64 = .finite x ∧ ∃ digits, d = candidate x.negative digits dropped := by
  unfold neighbour? at hfound
  simp only [beq_iff_eq] at hfound
  split_ifs at hfound <;> cases hfound <;> exact ⟨by assumption, _, rfl⟩

theorem exists_neighbour?_eq_some
    (hback : (candidate x.negative (exact / 10 ^ dropped) dropped).toBinary64 = .finite x ∨
      (candidate x.negative (exact / 10 ^ dropped + 1) dropped).toBinary64 = .finite x) :
    ∃ d, neighbour? tie x exact dropped = some d := by
  unfold neighbour?
  simp only [beq_iff_eq, Nat.pow_eq]
  rcases hback with hback | hback <;> split_ifs <;> exact ⟨_, rfl⟩

/-- The search tries the grids from the coarsest on and stops at the first that has a hit. -/
theorem search_eq_some {places : Nat} (hlow : 10 ^ places ≤ exact)
    (hhigh : exact < 10 ^ (places + 17)) (hhit : ∃ d, neighbour? tie x exact places = some d) :
    ∃ d dropped, places ≤ dropped ∧ neighbour? tie x exact dropped = some d ∧
      search tie x exact = some d := by
  obtain ⟨d, hd⟩ := hhit
  have hcount : places < digitCount exact := lt_digitCount_iff.mpr hlow
  have hcount' : ¬ places + 17 < digitCount exact := by
    rw [lt_digitCount_iff]
    omega
  obtain ⟨last, hlast⟩ : ∃ last, digitCount exact = places + (last + 1) :=
    ⟨digitCount exact - places - 1, by omega⟩
  have hsplit : List.range 17 = List.range (last + 1) ++
      (List.range (16 - last)).map (last + 1 + ·) := by
    rw [← List.range_add]
    congr 1
    omega
  have hsome : ((List.range (last + 1)).findSome? fun n =>
      neighbour? tie x exact (digitCount exact - (n + 1))).isSome := by
    rw [List.findSome?_isSome_iff]
    refine ⟨last, List.self_mem_range_succ, ?_⟩
    rw [hlast, Nat.add_sub_cancel, hd]
    rfl
  obtain ⟨first, hfirst⟩ := Option.isSome_iff_exists.mp hsome
  obtain ⟨n, hn, hneighbour⟩ := List.exists_of_findSome?_eq_some hfirst
  rw [List.mem_range] at hn
  refine ⟨first, digitCount exact - (n + 1), by omega, hneighbour, ?_⟩
  unfold search
  dsimp only
  rw [hsplit, List.findSome?_append, hfirst, Option.some_or]

theorem value_strip (fuel : Nat) (d : Decimal) : (strip fuel d).value = d.value := by
  induction fuel generalizing d with
  | zero => rfl
  | succ fuel ih =>
      rw [strip]
      split
      · next htrailing =>
          have hdigits : (d.digits : ℚ) = (d.digits / 10 : Nat) * 10 := by
            exact_mod_cast (Nat.div_mul_cancel (Nat.dvd_of_mod_eq_zero htrailing.2)).symm
          rw [ih, value, value, hdigits, zpow_add_one₀ (by decide)]
          ring
      · rfl

theorem value_shortest_of_search (hfound : search tie x (exactDigits x.units) = some d)
    (hunits : x.units ≠ 0) : (x.shortest tie).value = d.value := by
  rw [Finite64.shortest, if_neg hunits]
  dsimp only
  rw [hfound]
  exact value_strip _ _

end Decimal

namespace Finite64

open Decimal

variable {x : Finite64} {tie : Tie}

theorem value_ne_zero_iff : x.value ≠ 0 ↔ x.units ≠ 0 := by
  rw [Ne, value_eq_zero_iff]
  unfold scaled
  split <;> omega

theorem value_shortest_eq_zero (tie : Tie) (hx : x.value = 0) : (x.shortest tie).value = 0 := by
  rw [shortest, if_pos (by_contra fun hunits => value_ne_zero_iff.mpr hunits hx), Decimal.value,
    Nat.cast_zero, zero_mul, mul_zero]

/-- What a number is written as reads back as that number. -/
theorem rounded?_shortest (tie : Tie) (x : Finite64) :
    rounded? (x.shortest tie).value = some x.value := by
  by_cases hunits : x.units = 0
  · have hzero : x.value = 0 := not_ne_iff.mp (mt value_ne_zero_iff.mp (not_ne_iff.mpr hunits))
    rw [value_shortest_eq_zero tie hzero, ← hzero, rounded?_value]
  · cases hfound : search tie x (exactDigits x.units) with
    | some d =>
        obtain ⟨n, -, hneighbour⟩ := List.exists_of_findSome?_eq_some hfound
        rw [value_shortest_of_search hfound hunits]
        exact (readsBack_iff (value_ne_zero_iff.mpr hunits)).mp (neighbour?_eq_some hneighbour).1
    | none =>
        rw [shortest, if_neg hunits]
        dsimp only
        rw [hfound, value_exactDigits, rounded?_value]

theorem rounded?_sign_of_between {negative : Bool} {p q r v : ℚ}
    (hp : rounded? (sign negative * p) = some v) (hr : rounded? (sign negative * r) = some v)
    (hpq : p ≤ q) (hqr : q ≤ r) : rounded? (sign negative * q) = some v := by
  cases negative with
  | false =>
      rw [sign, if_neg Bool.false_ne_true, one_mul] at hp hr ⊢
      exact rounded?_of_between hp hr hpq hqr
  | true =>
      rw [sign, if_pos rfl, neg_one_mul] at hp hr ⊢
      exact rounded?_of_between hr hp (neg_le_neg hqr) (neg_le_neg hpq)

/-- Between a number and a decimal that reads back as it lies a neighbour of the number. -/
theorem exists_neighbour?_of_readsBack {places : Nat} (tie : Tie) (count : Int) (hx : x.units ≠ 0)
    (hback : rounded? (sign x.negative * (count * 10 ^ ((places : Int) - oneExponent))) =
      some x.value) :
    ∃ d, neighbour? tie x (exactDigits x.units) places = some d := by
  have hexact : rounded? (sign x.negative *
      (exactDigits x.units * 10 ^ (-(oneExponent : Int)))) = some x.value := by
    have hvalue := value_exactDigits x
    rw [value_candidate, Nat.cast_zero, zero_sub] at hvalue
    rw [hvalue, rounded?_value]
  have hgrid : (10 : ℚ) ^ ((places : Int) - oneExponent) =
      10 ^ places * 10 ^ (-(oneExponent : Int)) := by
    rw [sub_eq_add_neg, zpow_add₀ (by decide), zpow_natCast]
  have hunit := ten_zpow_pos (-(oneExponent : Int))
  apply exists_neighbour?_eq_some
  simp only [readsBack_iff (value_ne_zero_iff.mpr hx), value_candidate]
  rw [hgrid] at hback ⊢
  generalize (10 : ℚ) ^ (-(oneExponent : Int)) = unit at *
  generalize exactDigits x.units = exact at *
  have hpower : (0 : ℚ) < 10 ^ places * unit := mul_pos (by positivity) hunit
  rcases le_or_gt (count * 10 ^ places) exact with hle | hlt
  · left
    apply rounded?_sign_of_between hback hexact
    · have hcount : count ≤ exact / 10 ^ places := Int.le_ediv_of_mul_le (by positivity) hle
      have hcast : (count : ℚ) ≤ ((exact / 10 ^ places : Nat) : Int) := Int.cast_le.mpr hcount
      rw [Int.cast_natCast] at hcast
      exact mul_le_mul_of_nonneg_right hcast hpower.le
    · have hlower := Nat.div_mul_le_self exact (10 ^ places)
      rw [← mul_assoc]
      exact mul_le_mul_of_nonneg_right (by exact_mod_cast hlower) hunit.le
  · right
    apply rounded?_sign_of_between hexact hback
    · have hupper : exact ≤ (exact / 10 ^ places + 1) * 10 ^ places :=
        (Nat.lt_mul_of_div_lt (Nat.lt_succ_self _) (Nat.pow_pos (by decide))).le
      rw [← mul_assoc]
      exact mul_le_mul_of_nonneg_right (by exact_mod_cast hupper) hunit.le
    · have hcount : exact / 10 ^ places + 1 ≤ count :=
        Int.add_one_le_of_lt (Int.ediv_lt_of_lt_mul (by positivity) hlt)
      have hcast : (((exact / 10 ^ places + 1 : Nat) : Int) : ℚ) ≤ count := Int.cast_le.mpr hcount
      rw [Int.cast_natCast] at hcast
      exact mul_le_mul_of_nonneg_right hcast hpower.le

/-- Where only one decimal of a grid reads back, and the number has between one and seventeen
digits before its end, that decimal is written. -/
theorem value_shortest_of_unique {count exponent : Int} (tie : Tie)
    (hexponent : -(oneExponent : Int) ≤ exponent)
    (hback : rounded? (count * 10 ^ exponent) = some x.value)
    (hunique : ∀ other : Int, rounded? (other * 10 ^ exponent) = some x.value → other = count)
    (hlow : 10 ^ exponent ≤ |x.value|) (hhigh : |x.value| < 10 ^ (exponent + 17)) :
    (x.shortest tie).value = count * 10 ^ exponent := by
  have hx : x.units ≠ 0 := by
    rw [← value_ne_zero_iff, ← abs_pos]
    exact (ten_zpow_pos exponent).trans_le hlow
  obtain ⟨places, hplaces⟩ := Int.eq_ofNat_of_zero_le (by omega : 0 ≤ exponent + oneExponent)
  obtain rfl : exponent = places - oneExponent := by omega
  obtain ⟨s, hs⟩ : ∃ s : Int, (s : ℚ) = sign x.negative :=
    ⟨if x.negative then -1 else 1, by cases x.negative <;> rfl⟩
  have hsquare : sign x.negative * sign x.negative = 1 := by
    cases x.negative <;> norm_num [sign]
  have hunit := ten_zpow_pos (-(oneExponent : Int))
  obtain ⟨d, dropped, hdropped, hneighbour, hsearch⟩ :
      ∃ d dropped, places ≤ dropped ∧
        neighbour? tie x (exactDigits x.units) dropped = some d ∧
        search tie x (exactDigits x.units) = some d := by
    apply search_eq_some
    · rw [abs_value_eq_exactDigits, sub_eq_add_neg, zpow_add₀ (by decide), zpow_natCast,
        mul_le_mul_iff_left₀ hunit] at hlow
      exact_mod_cast hlow
    · rw [abs_value_eq_exactDigits, sub_add_eq_add_sub, sub_eq_add_neg, zpow_add₀ (by decide),
        mul_lt_mul_iff_left₀ hunit] at hhigh
      exact_mod_cast hhigh
    · apply exists_neighbour?_of_readsBack tie (s * count) hx
      rw [← hback, Int.cast_mul, hs, ← mul_assoc, ← mul_assoc, hsquare, one_mul]
  obtain ⟨hread, digits, rfl⟩ := neighbour?_eq_some hneighbour
  obtain ⟨other, hvalue⟩ := exists_value_candidate_eq x.negative digits hdropped
  rw [readsBack_iff (value_ne_zero_iff.mpr hx), hvalue] at hread
  rw [value_shortest_of_search hsearch hx, hvalue, hunique _ hread]

/-- Two decimals of a grid that is coarser than the spacing do not read back as one number. -/
theorem count_eq_of_rounded?_eq {count other : Int} {grid v : ℚ} {exponent : Nat}
    (hcount : rounded? (count * grid) = some v) (hother : rounded? (other * grid) = some v)
    (hv : |v| < 2 ^ exponent) (hgrid : 2 ^ exponent < grid * 2 ^ 53) : count = other := by
  have hbounded {q : ℚ} (hq : rounded? q = some v) : |v - q| ≤ 2 ^ exponent / 2 ^ 54 := by
    apply rounded?_error hq
    by_contra hlarge
    exact absurd hv (not_lt.mpr (two_pow_le_rounded? hq (not_le.mp hlarge).le))
  have hcount' := abs_le.mp (hbounded hcount)
  have hother' := abs_le.mp (hbounded hother)
  have hpos : 0 < grid := by
    have hpower : (0 : ℚ) < 2 ^ exponent := by positivity
    linarith
  have happart : |((count - other : Int) : ℚ)| < 1 := by
    have hdiff : |((count - other : Int) : ℚ) * grid| < grid := by
      push_cast
      rw [abs_lt]
      constructor <;> linarith
    rwa [abs_mul, abs_of_pos hpos, mul_lt_iff_lt_one_left hpos] at hdiff
  have hzero : count - other = 0 := Int.abs_lt_one_iff.mp (by exact_mod_cast happart)
  omega

theorem value_shortest_of_grid {count places : Int} {exponent : Nat} (tie : Tie)
    (hplaces : -(oneExponent : Int) ≤ places)
    (hcount : rounded? (count * 10 ^ places) = some x.value) (hlow : 10 ^ places ≤ |x.value|)
    (hhigh : |x.value| < 2 ^ exponent) (hgrid : 2 ^ exponent < (10 : ℚ) ^ places * 2 ^ 53) :
    (x.shortest tie).value = count * 10 ^ places := by
  apply value_shortest_of_unique tie hplaces hcount _ hlow
  · have hpower := ten_zpow_pos places
    rw [zpow_add₀ (by decide)]
    norm_num at hgrid ⊢
    linarith
  · intro other hother
    exact count_eq_of_rounded?_eq hother hcount hhigh hgrid

end Finite64

end DotQuery

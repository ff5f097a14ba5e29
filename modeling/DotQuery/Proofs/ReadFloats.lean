import DotQuery.Json.Float
import DotQuery.Proofs.DecimalValue
import DotQuery.Proofs.Digits
import DotQuery.Proofs.SafeInteger

/-!
# Floats as they are read

A JSON number is read with three roundings: of the word that its digits make up, of a power of ten,
and of their product or quotient. A word of less than 53 binary places is exact, and so is a power
of ten up to the 22nd. Then only the last rounding is left, and it gives the number that is nearest
to what is written.
-/

namespace DotQuery

namespace Binary64

theorem ofRatio_zero (negative : Bool) (den : Nat) :
    ofRatio negative 0 den = .finite (.zero negative) := by
  have hnearest : nearest 0 den = 0 := by simp [nearest, roundHalfEven]
  have hlimit : nearest 0 den < limit := by
    rw [hnearest]
    exact limit_pos
  rw [ofRatio, dif_pos hlimit]
  simp only [hnearest]
  rfl

theorem ofRatio_mul_right (negative : Bool) (num den : Nat) {factor : Nat} (hfactor : 0 < factor) :
    ofRatio negative (num * factor) (den * factor) = ofRatio negative num den := by
  unfold ofRatio
  simp only [nearest_mul_right hfactor]

theorem powerOfTen_eq {exponent : Nat} (hexponent : exponent ≤ 22) :
    powerOfTen exponent = Nat.pow 10 exponent * one := by
  have hspacing : ∀ k < 23, spacing (Nat.pow 10 k * one) ∣ Nat.pow 10 k * one := by
    decide +kernel
  exact nearest_of_spacing_dvd (hspacing exponent (Nat.lt_succ_of_le hexponent))

section Exact

variable {word : Nat} {exponent : Int} (hword : word < Nat.pow 2 53)
  (hexponent : exponent.natAbs ≤ 22)
include hword hexponent

theorem toBinary64_eq_ofRatio (negative : Bool) :
    (Decimal.mk negative word exponent).toBinary64 =
      ofRatio negative (word * Nat.pow 10 exponent.toNat * one) (Nat.pow 10 (-exponent).toNat) := by
  have hunit : Nat.pow 10 0 = 1 := rfl
  rw [Decimal.toBinary64]
  dsimp only
  by_cases hzero : word = 0
  · rw [if_pos hzero, hzero, Nat.zero_mul, Nat.zero_mul, ofRatio_zero]
  · have hpos : 0 < Decimal.digitCount word :=
      Decimal.lt_digitCount_iff.mpr (Nat.one_le_iff_ne_zero.mpr hzero)
    have hcount : ¬ 16 < Decimal.digitCount word := by
      rw [Decimal.lt_digitCount_iff, Nat.not_le]
      exact hword.trans (by decide)
    have hleading : Decimal.leadingExponent ⟨negative, word, exponent⟩ =
        exponent + Decimal.digitCount word - 1 := rfl
    rw [if_neg hzero, hleading, if_neg (by omega), if_neg (by omega)]
    split
    · next hnegative => rw [Int.toNat_of_nonpos hnegative.le, hunit, Nat.mul_one]
    · next hnonneg => rw [Int.toNat_of_nonpos (by omega : -exponent ≤ 0), hunit]

/-- The quotient and the product are taken of exact numbers. -/
theorem scale?_eq_finite? (negative : Bool) :
    scale? negative word exponent = (Decimal.mk negative word exponent).toBinary64.finite? := by
  have hunit : Nat.pow 10 0 = 1 := rfl
  have hunits : nearest (word * one) 1 = word * one :=
    nearest_of_spacing_dvd (spacing_dvd_mul_one hword)
  rw [toBinary64_eq_ofRatio hword hexponent, scale?]
  dsimp only
  rw [hunits]
  split
  · next hnonneg =>
      rw [Int.toNat_of_nonpos (by omega : -exponent ≤ 0), hunit]
      split
      · next hzero =>
          rw [hzero, Nat.zero_mul, Nat.zero_mul, ofRatio_zero]
          rfl
      · have hproduct : word * one * (Nat.pow 10 exponent.toNat * one) =
            word * Nat.pow 10 exponent.toNat * one * one := by ring
        rw [if_neg (by omega), powerOfTen_eq (by omega), hproduct,
          ← ofRatio_mul_right _ _ 1 one_pos, Nat.one_mul]
  · next hnegative =>
      have htimes : ((-exponent).toNat - 1) / 308 = 0 := by omega
      rw [htimes, scaleDown, Nat.mul_zero, Nat.sub_zero, powerOfTen_eq (by omega),
        Int.toNat_of_nonpos (by omega : exponent ≤ 0), hunit, Nat.mul_one,
        ofRatio_mul_right _ _ _ one_pos]

end Exact

end Binary64

namespace Numeral

open Text

/-- Digits that fit into the word are all taken. -/
theorem collect_eq {word : Nat} {digits : List Char}
    (hfits : word * 10 ^ digits.length + digitsValue digits < 0x10000000000000000) :
    collect word digits = (word * 10 ^ digits.length + digitsValue digits, digits.length) := by
  induction digits generalizing word with
  | nil => simp [collect, digitsValue]
  | cons c rest ih =>
      have hvalue : word * 10 ^ (c :: rest).length + digitsValue (c :: rest) =
          (10 * word + (c.toNat - '0'.toNat)) * 10 ^ rest.length + digitsValue rest := by
        rw [digitsValue_cons, List.length_cons, pow_succ]
        ring
      rw [hvalue] at hfits ⊢
      have hnext : 10 * word + (c.toNat - '0'.toNat) < 0x10000000000000000 := by
        refine lt_of_le_of_lt ?_ hfits
        exact (Nat.le_mul_of_pos_right _ (Nat.pow_pos (by decide))).trans (Nat.le_add_right _ _)
      rw [collect]
      dsimp only
      rw [if_pos hnext, ih hfits, List.length_cons]

/-- A literal of few digits and of a moderate power of ten is read as the number nearest to it. -/
theorem readFloat?_eq_finite? {n : Numeral} (hascii : n.isAscii = true)
    (hdigits : n.toDecimal.digits < Nat.pow 2 53) (hexponent : n.toDecimal.exponent.natAbs ≤ 22) :
    n.readFloat? = n.finite? := by
  have hvalue : n.toDecimal.digits =
      digitsValue n.whole * 10 ^ n.fraction.length + digitsValue n.fraction :=
    digitsValue_append _ _
  have hfits : digitsValue n.whole * 10 ^ n.fraction.length + digitsValue n.fraction <
      0x10000000000000000 := by
    rw [← hvalue]
    exact hdigits.trans (by decide)
  have hwhole : digitsValue n.whole < 0x10000000000000000 := by
    refine lt_of_le_of_lt ?_ hfits
    exact (Nat.le_mul_of_pos_right _ (Nat.pow_pos (by decide))).trans (Nat.le_add_right _ _)
  have hcollected : collect 0 n.whole = (digitsValue n.whole, n.whole.length) := by
    rw [collect_eq (by simpa using hwhole), Nat.zero_mul, Nat.zero_add]
  rw [readFloat?, finite?, toBinary64?, if_pos hascii, Option.bind_some, hcollected]
  dsimp only
  rw [collect_eq hfits, Nat.sub_self, ← hvalue]
  have hplaces : (if n.exponentNegative = true then -(digitsValue n.exponent : Int)
      else digitsValue n.exponent) + ((0 : Nat) : Int) - n.fraction.length =
        n.toDecimal.exponent := by
    rw [Nat.cast_zero, Int.add_zero]
    rfl
  rw [hplaces, Binary64.scale?_eq_finite? hdigits hexponent]
  rfl

example : readFloat? ⟨false, ['1'], "4649999999999999".toList, false, []⟩ =
    finite? ⟨false, ['1'], "465".toList, false, []⟩ := by
  decide +kernel

end Numeral

end DotQuery

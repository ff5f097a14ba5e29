import DotQuery.Proofs.Comparators
import DotQuery.Proofs.Numerals
import DotQuery.Proofs.Rounding

/-!
# Integers in filters

An integer in the document and one in the operand of a filter are both read as the doubles nearest
to them. So a filter compares integers as they are, but for those that share a double with the
operand: these pass for the operand itself.
-/

namespace DotQuery

open Query

/-! ### Written integers -/

namespace Text

variable {text : List Char} {n : Int}

/-- The decimal text of an integer: digits, with a sign before them if need be. -/
inductive WritesInteger : List Char → Int → Prop where
  | unsigned {digits : List Char} (hne : digits ≠ [])
      (hdigits : ∀ c ∈ digits, c.isDigit = true) :
      WritesInteger digits (digitsValue digits)
  | plus {digits : List Char} (hne : digits ≠ [])
      (hdigits : ∀ c ∈ digits, c.isDigit = true) :
      WritesInteger ('+' :: digits) (digitsValue digits)
  | minus {digits : List Char} (hne : digits ≠ [])
      (hdigits : ∀ c ∈ digits, c.isDigit = true) :
      WritesInteger ('-' :: digits) (-digitsValue digits)

theorem writesInteger_toString (n : Int) : WritesInteger (toString n).toList n := by
  have hdigits (count : Nat) : ∀ c ∈ Nat.toDigits 10 count, c.isDigit = true :=
    fun _ => isDigit_of_mem_toDigits
  cases n with
  | ofNat count =>
      have htext : (toString (Int.ofNat count)).toList = Nat.toDigits 10 count := by
        exact Nat.toList_repr
      have hvalue : Int.ofNat count = digitsValue (Nat.toDigits 10 count) := by
        rw [digitsValue_toDigits]
        rfl
      rw [htext, hvalue]
      exact .unsigned Nat.toDigits_ne_nil (hdigits count)
  | negSucc count =>
      have htext : (toString (Int.negSucc count)).toList = '-' :: Nat.toDigits 10 (count + 1) := by
        change ("-" ++ Nat.repr (count + 1)).toList = _
        rw [String.toList_append, Nat.toList_repr]
        rfl
      have hvalue : Int.negSucc count = -digitsValue (Nat.toDigits 10 (count + 1)) := by
        rw [digitsValue_toDigits]
        rfl
      rw [htext, hvalue]
      exact .minus Nat.toDigits_ne_nil (hdigits (count + 1))

theorem WritesInteger.exists_sign (htext : WritesInteger text n) :
    ∃ negative digits, Numeral.takeSign text = (negative, digits) ∧ digits ≠ [] ∧
      (∀ c ∈ digits, c.isDigit = true) ∧
      n = if negative then -(digitsValue digits : Int) else digitsValue digits := by
  cases htext with
  | unsigned hne hdigits =>
      exact ⟨false, text, Numeral.takeSign_of_isDigit hne hdigits, hne, hdigits, rfl⟩
  | plus hne hdigits => exact ⟨false, _, rfl, hne, hdigits, rfl⟩
  | minus hne hdigits => exact ⟨true, _, rfl, hne, hdigits, rfl⟩

theorem WritesInteger.not_blank (htext : WritesInteger text n) :
    ∀ c ∈ text, isBlank c = false := by
  cases htext with
  | unsigned hne hdigits => exact fun c hc => not_blank_of_isDigit (hdigits c hc)
  | plus hne hdigits | minus hne hdigits =>
      rw [List.forall_mem_cons]
      exact ⟨rfl, fun c hc => not_blank_of_isDigit (hdigits c hc)⟩

theorem WritesInteger.ne_nil (htext : WritesInteger text n) : text ≠ [] := by
  cases htext with
  | unsigned hne hdigits => exact hne
  | plus hne hdigits | minus hne hdigits => exact List.cons_ne_nil _ _

theorem WritesInteger.trim_eq (htext : WritesInteger text n) : trim text = text :=
  trim_eq_self (fun c hc => htext.not_blank c (List.mem_of_mem_head? hc))
    fun c hc => htext.not_blank c (List.mem_of_mem_getLast? hc)

end Text

/-! ### The doubles of written integers -/

theorem Binary64.ofInt_zero : ofInt 0 = .finite (.zero false) := by
  rw [ofInt, ofScaled, Int.zero_mul]
  rw [if_pos rfl]

namespace Decimal

variable {digits : Nat}

theorem powerBeyond_le (n fuel k : Nat) : powerBeyond n fuel k ≤ k + fuel := by
  induction fuel generalizing k with
  | zero => exact Nat.le_refl k
  | succ fuel ih =>
      rw [powerBeyond]
      split
      · omega
      · have hlater := ih (k + 1)
        omega

theorem digitCount_le (n : Nat) : digitCount n ≤ 2 * n.log2 + 1 := by
  have hbound := powerBeyond_le n (n.log2 + 1) (n.log2 * 30102 / 100000)
  unfold digitCount
  omega

theorem toBinary64_zero (negative : Bool) :
    (Decimal.mk negative 0 0).toBinary64 = .finite (.zero negative) := by
  unfold toBinary64
  rw [if_pos rfl]

/-- Without an exponent a decimal is the integer that its digits are written for. -/
theorem toBinary64_eq_ofInt (negative : Bool) (hpos : 0 < digits) (hdigits : digits < 2 ^ 64) :
    (Decimal.mk negative digits 0).toBinary64 =
      .ofInt (if negative then -(digits : Int) else digits) := by
  have hone := Binary64.one_pos
  have hcount : digitCount digits ≤ 127 := by
    have hlog : digits.log2 < 64 := (Nat.log2_lt hpos.ne').mpr hdigits
    have hbound := digitCount_le digits
    omega
  have hratio : (Decimal.mk negative digits 0).toBinary64 =
      .ofRatio negative (digits * Binary64.one) 1 := by
    unfold toBinary64 leadingExponent
    dsimp only
    rw [if_neg hpos.ne', if_neg (by omega), if_neg (by omega), if_neg (by omega)]
    rw [Int.toNat_zero, Nat.pow_eq, Nat.pow_zero, Nat.mul_one]
  have hunits : 0 < (digits : Int) * Binary64.one :=
    Int.mul_pos (Int.natCast_pos.mpr hpos) (Int.natCast_pos.mpr hone)
  rw [hratio, Binary64.ofInt, Binary64.ofScaled]
  cases negative with
  | false =>
      rw [if_neg Bool.false_ne_true, if_neg hunits.ne', decide_eq_false (by omega),
        Int.natAbs_mul, Int.natAbs_natCast, Int.natAbs_natCast]
  | true =>
      rw [if_pos rfl, Int.neg_mul, if_neg (by omega), decide_eq_true (by omega), Int.natAbs_neg,
        Int.natAbs_mul, Int.natAbs_natCast, Int.natAbs_natCast]

end Decimal

/-! ### Comparison -/

namespace Comparison

variable {key operand : String} {comparator : Comparator} {item : Json} {n m : Int}

/-- The operand is read as the double of the integer, but for the sign of a zero. -/
theorem exists_operandNumber?_eq (hoperand : Text.WritesInteger operand.toList n)
    (hn : Json.IsWord n) :
    ∃ x, operandNumber? operand = some x ∧ Binary64.Alike x (.ofInt n) := by
  obtain ⟨negative, digits, hsign, hne, hdigits, hvalue⟩ := hoperand.exists_sign
  have htake := Numeral.take?_of_digits hsign hne hdigits
  have hempty : operand.toList.isEmpty = false := by
    rw [List.isEmpty_eq_false_iff]
    exact hoperand.ne_nil
  have hascii : digits.all Char.isDigit = true := List.all_eq_true.mpr hdigits
  have hparse : operandNumber? operand =
      ((Decimal.mk negative (Text.digitsValue digits) 0).toBinary64.finite?).map .finite := by
    simp [operandNumber?, parseNumber?, hoperand.trim_eq, hempty, htake, Numeral.finite?,
      Numeral.toBinary64?, Numeral.isAscii, hascii, Numeral.toDecimal, Text.digitsValue]
  rw [hparse]
  unfold Json.IsWord at hn
  by_cases hzero : Text.digitsValue digits = 0
  · have hn0 : n = 0 := by
      rw [hvalue, hzero]
      split <;> rfl
    rw [hzero, hn0, Decimal.toBinary64_zero, Binary64.ofInt_zero]
    exact ⟨.finite (.zero negative), rfl, .zeros negative false⟩
  · have hbound : Text.digitsValue digits < 2 ^ 64 := by
      split at hvalue <;> omega
    obtain ⟨x, hx⟩ := Binary64.exists_ofInt_eq_finite (show n.natAbs < 2 ^ 64 by omega)
    rw [Decimal.toBinary64_eq_ofInt negative (Nat.pos_of_ne_zero hzero) hbound, ← hvalue, hx]
    exact ⟨.finite x, rfl, .same _⟩

/-- An integer that shares a double with the operand passes for it. -/
theorem order?_integer {hword : Json.IsWord n} (hoperand : Text.WritesInteger operand.toList m)
    (hm : Json.IsWord m) :
    order? ⟨key, comparator, operand⟩ (some (.num (.int n hword))) =
      some (compare (if Binary64.ofInt n = Binary64.ofInt m then m else n) m) := by
  obtain ⟨x, hx, halike⟩ := exists_operandNumber?_eq hoperand hm
  calc order? ⟨key, comparator, operand⟩ (some (.num (.int n hword)))
      = Binary64.compare? (.ofInt n) x := by
        rw [order?, hx]
        rfl
    _ = Binary64.compare? (.ofInt n) (.ofInt m) := halike.compare?_eq
    _ = some (compare (if Binary64.ofInt n = Binary64.ofInt m then m else n) m) := by
        rw [Binary64.compare?_ofInt]
        split
        · rw [Int.compare_eq_eq.mpr rfl]
        · rfl

end Comparison

/-! ### Filters -/

namespace Query.Comparator

/-- The relation that a comparator asks for. -/
def Holds : Comparator → Int → Int → Prop
  | eq, a, b => a = b
  | ne, a, b => a ≠ b
  | gt, a, b => a > b
  | ge, a, b => a ≥ b
  | lt, a, b => a < b
  | le, a, b => a ≤ b

instance : (comparator : Comparator) → (a b : Int) → Decidable (comparator.Holds a b)
  | eq, a, b => inferInstanceAs (Decidable (a = b))
  | ne, a, b => inferInstanceAs (Decidable (a ≠ b))
  | gt, a, b => inferInstanceAs (Decidable (a > b))
  | ge, a, b => inferInstanceAs (Decidable (a ≥ b))
  | lt, a, b => inferInstanceAs (Decidable (a < b))
  | le, a, b => inferInstanceAs (Decidable (a ≤ b))

theorem accepts_compare (comparator : Comparator) (a b : Int) :
    comparator.accepts (some (compare a b)) = true ↔ comparator.Holds a b := by
  rcases lt_trichotomy a b with hlt | rfl | hgt
  · rw [Int.compare_eq_lt.mpr hlt]
    cases comparator <;> simp [accepts, Holds] <;> omega
  · rw [Int.compare_eq_eq.mpr rfl]
    cases comparator <;> simp [accepts, Holds]
  · rw [Int.compare_eq_gt.mpr hgt]
    cases comparator <;> simp [accepts, Holds] <;> omega

end Query.Comparator

/-- The integer that a member of an object holds. -/
def Json.integer? (key : String) (item : Json) : Option Int :=
  match item.member? key with
  | some (.num (.int n _)) => some n
  | _ => none

theorem Json.integer?_eq_some_iff {key : String} {item : Json} {n : Int} :
    item.integer? key = some n ↔ ∃ hword, item.member? key = some (.num (.int n hword)) := by
  unfold integer?
  split
  · next found hword hmember =>
      rw [hmember]
      constructor
      · rintro ⟨⟩
        exact ⟨hword, rfl⟩
      · rintro ⟨_, ⟨⟩⟩
        rfl
  · next hother =>
      refine ⟨nofun, fun ⟨hword, hmember⟩ => ?_⟩
      exact absurd hmember (hother n hword)

namespace Operators

open Comparison

variable {call : Call} {key operand : String} {comparator : Comparator} {m : Int}
  {items : List Json}

/-- A filter on integers keeps those in the relation to the integer of the operand, where one that
shares a double with it passes for it. Two integers that share a double are of magnitude `2 ^ 53` at
least, so below that the relation is that of the integers themselves. -/
theorem filter_integers (hequator : parseEquator call.argument = .ok ⟨key, comparator, operand⟩)
    (hoperand : Text.WritesInteger operand.toList m) (hm : Json.IsWord m)
    (hitems : ∀ item ∈ items, ∃ n, item.integer? key = some n) :
    filter call (some (.arr items)) =
        .ok (.arr (items.filter fun item => (item.integer? key).any fun n =>
          comparator.Holds (if Binary64.ofInt n = Binary64.ofInt m then m else n) m)) ∧
      ∀ n, Binary64.ofInt n = Binary64.ofInt m →
        n = m ∨ 2 ^ 53 ≤ n.natAbs ∧ 2 ^ 53 ≤ m.natAbs := by
  constructor
  · rw [filter_arr hequator]
    congr 2
    apply List.filter_congr
    intro item hitem
    obtain ⟨n, hn⟩ := hitems item hitem
    obtain ⟨hword, hmember⟩ := Json.integer?_eq_some_iff.mp hn
    rw [hn, Option.any_some, Bool.eq_iff_iff, decide_eq_true_eq, keeps, hmember,
      order?_integer hoperand hm]
    exact comparator.accepts_compare _ m
  · intro n hsame
    rw [Binary64.ofInt_eq_iff_place_eq] at hsame
    by_contra hfar
    rw [not_or, not_and_or, Nat.not_le, Nat.not_le] at hfar
    rcases hfar with ⟨hne, hsmall | hsmall⟩
    · exact hne (Binary64.eq_of_place_ofInt_eq hsmall hsame.symm).symm
    · exact hne (Binary64.eq_of_place_ofInt_eq hsmall hsame)

/-- Around the first integer that shares its double. -/
theorem filter_integers_from_two_pow :
    let call : Call := ⟨.filter, "id>=9007199254740992", "filter(id>=9007199254740992)"⟩
    let items : List Json :=
      [.obj [("id", .ofInt 9007199254740991)], .obj [("id", .ofInt 9007199254740993)]]
    filter call (some (.arr items)) =
        .ok (.arr (items.filter fun item => (item.integer? "id").any fun n =>
          Comparator.Holds .ge
            (if Binary64.ofInt n = Binary64.ofInt 9007199254740992 then 9007199254740992 else n)
            9007199254740992)) ∧
      ∀ n, Binary64.ofInt n = Binary64.ofInt 9007199254740992 →
        n = 9007199254740992 ∨ 2 ^ 53 ≤ n.natAbs ∧ 2 ^ 53 ≤ Int.natAbs 9007199254740992 := by
  intro call items
  have hequator : parseEquator call.argument = .ok ⟨"id", .ge, "9007199254740992"⟩ := by
    decide +kernel
  have hoperand : Text.WritesInteger "9007199254740992".toList 9007199254740992 :=
    Text.writesInteger_toString 9007199254740992
  have hitems : ∀ item ∈ items, ∃ n, item.integer? "id" = some n := by
    intro item hitem
    rcases List.mem_pair.mp hitem with rfl | rfl
    · exact ⟨9007199254740991, rfl⟩
    · exact ⟨9007199254740993, rfl⟩
  exact filter_integers hequator hoperand (by decide) hitems

/-- Equality keeps an integer that is not the operand. -/
theorem filter_keeps_neighbour :
    let call : Call := ⟨.filter, "id=9007199254740992", "filter(id=9007199254740992)"⟩
    let items : List Json := [.obj [("id", .ofInt 9007199254740993)]]
    Text.WritesInteger "9007199254740992".toList 9007199254740992 ∧
      (∀ item ∈ items, item.integer? "id" = some 9007199254740993) ∧
      filter call (some (.arr items)) = .ok (.arr items) ∧
      (items.filter fun item => (item.integer? "id").any fun n =>
        Comparator.Holds .eq n 9007199254740992) = [] := by
  intro call items
  have hequator : parseEquator call.argument = .ok ⟨"id", .eq, "9007199254740992"⟩ := by
    decide +kernel
  have hkept : ∀ item ∈ items, keeps ⟨"id", .eq, "9007199254740992"⟩ item = true := by
    intro item hitem
    rw [List.mem_singleton.mp hitem]
    decide +kernel
  refine ⟨Text.writesInteger_toString 9007199254740992, ?_, ?_, rfl⟩
  · intro item hitem
    rw [List.mem_singleton.mp hitem]
    rfl
  · rw [filter_arr hequator, List.filter_eq_self.mpr hkept]

end Operators

end DotQuery

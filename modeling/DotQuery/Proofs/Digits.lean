import DotQuery.Text.Blank
import DotQuery.Text.Natural
import Mathlib.Tactic.IntervalCases
import Mathlib.Tactic.Ring

/-!
# Digits

The decimal digits and the numbers that they are written for.
-/

namespace DotQuery.Text

variable {c : Char} {n : Nat}

theorem toNat_of_isDigit (hc : c.isDigit = true) : 48 ≤ c.toNat ∧ c.toNat ≤ 57 := by
  simpa [Char.isDigit, UInt32.le_iff_toNat_le] using hc

theorem isDigit_digitChar (hn : n ≤ 9) : n.digitChar.isDigit = true := by
  interval_cases n <;> decide

theorem toNat_digitChar (hn : n ≤ 9) : n.digitChar.toNat - '0'.toNat = n := by
  interval_cases n <;> decide

theorem not_blank_of_isDigit (hc : c.isDigit = true) : isBlank c = false := by
  have hbounds := toNat_of_isDigit hc
  simp only [isBlank, Bool.or_eq_false_iff, Bool.and_eq_false_iff, decide_eq_false_iff_not,
    beq_eq_false_iff_ne]
  omega

theorem digitsValue_cons (c : Char) (rest : List Char) :
    digitsValue (c :: rest) = (c.toNat - '0'.toNat) * 10 ^ rest.length + digitsValue rest := by
  have hfold (digits : List Char) (value : Nat) :
      digits.foldl (fun value c => 10 * value + (c.toNat - '0'.toNat)) value =
        value * 10 ^ digits.length + digitsValue digits := by
    induction digits generalizing value with
    | nil => simp [digitsValue]
    | cons first others ih =>
        rw [digitsValue, List.foldl_cons, List.foldl_cons, ih, ih, List.length_cons, pow_succ]
        ring
  have hstart : 10 * 0 + (c.toNat - '0'.toNat) = c.toNat - '0'.toNat := by omega
  rw [digitsValue, List.foldl_cons, hstart, hfold]

theorem digitsValue_append (first second : List Char) :
    digitsValue (first ++ second) =
      digitsValue first * 10 ^ second.length + digitsValue second := by
  induction first with
  | nil => simp [digitsValue]
  | cons c rest ih =>
      rw [List.cons_append, digitsValue_cons, digitsValue_cons, ih, List.length_append, pow_add]
      ring

theorem digitsValue_replicate_zero (count : Nat) : digitsValue (List.replicate count '0') = 0 := by
  induction count with
  | zero => rfl
  | succ count ih =>
      rw [List.replicate_succ, digitsValue_cons, ih]
      simp

theorem digitsValue_lt {digits : List Char} (hdigits : ∀ c ∈ digits, c.isDigit = true) :
    digitsValue digits < 10 ^ digits.length := by
  induction digits with
  | nil => decide
  | cons c rest ih =>
      rw [List.forall_mem_cons] at hdigits
      have hbounds := toNat_of_isDigit hdigits.1
      have hzero : '0'.toNat = 48 := rfl
      have hrest := ih hdigits.2
      calc digitsValue (c :: rest)
          = (c.toNat - '0'.toNat) * 10 ^ rest.length + digitsValue rest := digitsValue_cons c rest
        _ < (c.toNat - '0'.toNat + 1) * 10 ^ rest.length := by
            rw [Nat.succ_mul]
            omega
        _ ≤ 10 * 10 ^ rest.length := Nat.mul_le_mul_right _ (by omega)
        _ = 10 ^ (c :: rest).length := by rw [List.length_cons, pow_succ']

/-! ### Runs of characters -/

section Runs

variable {accepts : Char → Bool} {run tail : List Char} (hrun : ∀ c ∈ run, accepts c = true)
  (htail : ∀ c ∈ tail.head?, accepts c = false)
include hrun htail

theorem takeWhile_run_append : (run ++ tail).takeWhile accepts = run := by
  have hnil : tail.takeWhile accepts = [] := by
    cases tail with
    | nil => rfl
    | cons c rest => exact List.takeWhile_cons_of_neg (by simp [htail c rfl])
  rw [List.takeWhile_append_of_pos hrun, hnil, List.append_nil]

theorem dropWhile_run_append : (run ++ tail).dropWhile accepts = tail := by
  rw [List.dropWhile_append_of_pos hrun]
  cases tail with
  | nil => rfl
  | cons c rest => exact List.dropWhile_cons_of_neg (by simp [htail c rfl])

end Runs

/-! ### The digits of a number -/

theorem digitsValue_toDigits (n : Nat) : digitsValue (Nat.toDigits 10 n) = n := by
  calc digitsValue (Nat.toDigits 10 n) = Nat.ofDigitChars 10 (Nat.toDigits 10 n) 0 :=
        Nat.ofDigitChars_eq_foldl.symm
    _ = n := Nat.ofDigitChars_ten_toDigits

theorem isDigit_of_mem_toDigits (hc : c ∈ Nat.toDigits 10 n) : c.isDigit = true :=
  Nat.isDigit_of_mem_toDigits (by decide) (by decide) hc

/-- The first digit is no zero. -/
theorem head?_toDigits_ne (hn : n ≠ 0) : (Nat.toDigits 10 n).head? ≠ some '0' := by
  induction n using Nat.strongRecOn with
  | ind n ih =>
      rcases Nat.lt_or_ge n 10 with hlt | hge
      · rw [Nat.toDigits_of_lt_base hlt]
        simpa using hn
      · rw [Nat.toDigits_of_base_le (by decide) hge, List.head?_append,
          Option.or_of_isSome (List.isSome_head?.mpr Nat.toDigits_ne_nil)]
        exact ih (n / 10) (by omega) (by omega)

end DotQuery.Text

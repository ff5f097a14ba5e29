import DotQuery.Json.Printer
import DotQuery.Json.Token
import DotQuery.Proofs.ReadFloats
import DotQuery.Proofs.Shortest

/-!
# Printed numbers

A number is printed as a numeral of JSON text: a sign, digits without superfluous zeros, and a
fraction or an exponent exactly if it is no integer. Such a numeral is read to its end, whatever
follows it that is no part of a numeral. An integer is read back, and so is a float of few digits
and of a moderate power of ten; others may be read as a neighbour.
-/

namespace DotQuery

open Text

namespace Decimal

variable {n : Nat}

theorem length_digitChars (hn : n ≠ 0) : (digitChars n).length = digitCount n := by
  have hiff {j : Nat} (hj : 0 < j) : (digitChars n).length ≤ j ↔ digitCount n ≤ j := by
    rw [digitChars, Nat.length_toDigits_le_iff (by decide) hj, ← Nat.not_le, ← lt_digitCount_iff,
      Nat.not_lt]
  have hcount : 0 < digitCount n := lt_digitCount_iff.mpr (Nat.one_le_iff_ne_zero.mpr hn)
  exact Nat.le_antisymm ((hiff hcount).mpr le_rfl) ((hiff Nat.length_toDigits_pos).mp le_rfl)

theorem isDigit_of_mem_zeros {count : Int} {c : Char} (hc : c ∈ zeros count) :
    c.isDigit = true := by
  rw [List.eq_of_mem_replicate hc]
  rfl

end Decimal

namespace Numeral

variable {n : Numeral} {tail : List Char}

/-! ### Numerals of JSON text -/

def fractionText (n : Numeral) : List Char :=
  if n.fraction = [] then [] else '.' :: n.fraction

def exponentText (n : Numeral) : List Char :=
  if n.exponent = [] then []
  else 'e' :: (if n.exponentNegative then '-' else '+') :: n.exponent

/-- The parts of a numeral one behind the other, the point and the mark of the exponent only where
digits follow. -/
def write (n : Numeral) : List Char :=
  Decimal.signChars n.negative ++ (n.whole ++ (n.fractionText ++ n.exponentText))

/-- A numeral as JSON text has it: there are digits before the point, and they are a single zero or
start with no zero. -/
structure IsPlain (n : Numeral) : Prop where
  wholeDigits : ∀ c ∈ n.whole, c.isDigit = true
  fractionDigits : ∀ c ∈ n.fraction, c.isDigit = true
  exponentDigits : ∀ c ∈ n.exponent, c.isDigit = true
  whole_ne_nil : n.whole ≠ []
  whole_zero : n.whole = ['0'] ∨ n.whole.head? ≠ some '0'
  exponent_nil : n.exponent = [] → n.exponentNegative = false

theorem IsPlain.isAscii (hn : n.IsPlain) : n.isAscii = true := by
  simp only [Numeral.isAscii, Bool.and_eq_true, List.all_eq_true]
  exact ⟨⟨hn.wholeDigits, hn.fractionDigits⟩, hn.exponentDigits⟩

/-- Neither a digit nor a point nor the mark of an exponent comes next. -/
def EndsNumber (tail : List Char) : Prop :=
  ∀ c ∈ tail.head?, c.isDigit = false ∧ c ≠ '.' ∧ c ≠ 'e' ∧ c ≠ 'E'

end Numeral

namespace Json

variable {n : Numeral} {digits tail : List Char}

/-! ### Reading a numeral -/

section Digits

variable (hdigits : ∀ c ∈ digits, c.isDigit = true) (htail : ∀ c ∈ tail.head?, c.isDigit = false)
include hdigits htail

theorem takeDigits?_append (hne : digits ≠ []) :
    takeDigits? (digits ++ tail) = some (digits, tail) := by
  rw [takeDigits?, takeWhile_run_append hdigits htail, dropWhile_run_append hdigits htail]
  cases digits with
  | nil => exact absurd rfl hne
  | cons c rest => rfl

theorem takeWhole?_append (hne : digits ≠ []) (hzero : digits = ['0'] ∨ digits.head? ≠ some '0') :
    takeWhole? (digits ++ tail) = some (digits, tail) := by
  rcases hzero with rfl | hzero
  · rfl
  · rw [takeWhole?.eq_2]
    · exact takeDigits?_append hdigits htail hne
    · rintro rest hrest
      cases digits with
      | nil => exact hne rfl
      | cons c others =>
          rw [List.cons_append, List.cons.injEq] at hrest
          exact hzero (congrArg some hrest.1)

end Digits

theorem takeFraction?_append (hdigits : ∀ c ∈ n.fraction, c.isDigit = true)
    (htail : ∀ c ∈ tail.head?, c.isDigit = false ∧ c ≠ '.') :
    takeFraction? (n.fractionText ++ tail) = some (n.fraction, tail) := by
  rw [Numeral.fractionText]
  split
  · next hnil =>
      rw [hnil, List.nil_append, takeFraction?.eq_2]
      rintro rest rfl
      exact (htail '.' rfl).2 rfl
  · next hne => exact takeDigits?_append hdigits (fun c hc => (htail c hc).1) hne

theorem takeExponent?_append (hdigits : ∀ c ∈ n.exponent, c.isDigit = true)
    (hnil : n.exponent = [] → n.exponentNegative = false) (htail : Numeral.EndsNumber tail) :
    takeExponent? (n.exponentText ++ tail) = some ((n.exponentNegative, n.exponent), tail) := by
  rw [Numeral.exponentText]
  split
  · next hexponent =>
      rw [hnil hexponent, hexponent, List.nil_append]
      cases tail with
      | nil => rfl
      | cons c rest =>
          have hmark : ¬(c = 'e' ∨ c = 'E') := not_or.mpr (htail c rfl).2.2
          rw [takeExponent?, if_neg hmark]
  · next hne =>
      have htake := takeDigits?_append hdigits (fun c hc => (htail c hc).1) hne
      rw [List.cons_append, List.cons_append, takeExponent?, if_pos (Or.inl rfl)]
      cases n.exponentNegative <;> simp [Numeral.takeSign, htake]

theorem endsNumber_exponentText (n : Numeral) (htail : Numeral.EndsNumber tail) :
    ∀ c ∈ (n.exponentText ++ tail).head?, c.isDigit = false ∧ c ≠ '.' := by
  intro c hc
  rw [Numeral.exponentText] at hc
  split at hc
  · exact ⟨(htail c hc).1, (htail c hc).2.1⟩
  · cases hc
    decide

theorem endsDigits_fractionText (n : Numeral) (htail : Numeral.EndsNumber tail) :
    ∀ c ∈ (n.fractionText ++ (n.exponentText ++ tail)).head?, c.isDigit = false := by
  intro c hc
  rw [Numeral.fractionText] at hc
  split at hc
  · exact (endsNumber_exponentText n htail c hc).1
  · cases hc
    decide

theorem takeNumber?_write (hn : n.IsPlain) (htail : Numeral.EndsNumber tail) :
    takeNumber? (n.write ++ tail) = some (ofNumeral? n, tail) := by
  have hwhole := takeWhole?_append hn.wholeDigits (endsDigits_fractionText n htail)
    hn.whole_ne_nil hn.whole_zero
  have hfraction := takeFraction?_append hn.fractionDigits (endsNumber_exponentText n htail)
  have hexponent := takeExponent?_append hn.exponentDigits hn.exponent_nil htail
  have htext : n.write ++ tail = Decimal.signChars n.negative ++
      (n.whole ++ (n.fractionText ++ (n.exponentText ++ tail))) := by
    simp only [Numeral.write, List.append_assoc]
  obtain ⟨c, others, hcons⟩ := List.exists_cons_of_ne_nil hn.whole_ne_nil
  have hdigit : c.isDigit = true := hn.wholeDigits c (by simp [hcons])
  unfold takeNumber?
  split
  next negative rest hsign =>
  have hparts : n.negative = negative ∧
      n.whole ++ (n.fractionText ++ (n.exponentText ++ tail)) = rest := by
    rw [htext] at hsign
    cases hnegative : n.negative with
    | true =>
        rw [hnegative] at hsign
        exact Prod.mk.inj hsign
    | false =>
        rw [hnegative, hcons] at hsign
        split at hsign
        · next heq =>
            cases heq
            cases hdigit
        · rw [hcons]
          exact Prod.mk.inj hsign
  obtain ⟨rfl, rfl⟩ := hparts
  rw [hwhole, Option.bind_eq_bind, Option.bind_some]
  dsimp only
  rw [hfraction, Option.bind_eq_bind, Option.bind_some]
  dsimp only
  rw [hexponent]
  rfl

end Json

/-! ### Printing a float -/

namespace Decimal

variable {d : Decimal} {leading : Int}

/-- A numeral that a decimal is printed as: it has the same value, and no integer is written so. It
has as many digits as the decimal, or as many as reach one place behind the point. -/
structure IsShown (d : Decimal) (n : Numeral) : Prop where
  isPlain : n.IsPlain
  isFloat : n.fraction ≠ [] ∨ n.exponent ≠ []
  negative : n.negative = d.negative
  value : n.toDecimal.value = d.value
  digits_le : n.toDecimal.digits ≤ d.digits * 10 ^ (d.exponent + 1).toNat
  le_exponent : min d.exponent (-1) ≤ n.toDecimal.exponent
  exponent_le : n.toDecimal.exponent ≤ max d.exponent (-1)

/-- The decimal has digits of less than 53 binary places, also with a zero behind the point if it is
an integer, and its power of ten is exact. -/
structure IsModerate (d : Decimal) : Prop where
  digits_lt : d.digits * 10 ^ (d.exponent + 1).toNat < Nat.pow 2 53
  exponent_le : d.exponent.natAbs ≤ 22

theorem digitChars_ne_nil (n : Nat) : digitChars n ≠ [] :=
  Nat.toDigits_ne_nil

theorem isDigit_of_mem_digitChars {n : Nat} {c : Char} (hc : c ∈ digitChars n) :
    c.isDigit = true :=
  isDigit_of_mem_toDigits hc

theorem digitsValue_digitChars (n : Nat) : digitsValue (digitChars n) = n :=
  digitsValue_toDigits n

theorem digitsValue_zeros_append (count : Int) (digits : List Char) :
    digitsValue (zeros count ++ digits) = digitsValue digits := by
  rw [digitsValue_append, zeros, digitsValue_replicate_zero, Nat.zero_mul, Nat.zero_add]

theorem digitsValue_append_zeros (digits : List Char) (count : Int) :
    digitsValue (digits ++ zeros count) = digitsValue digits * 10 ^ count.toNat := by
  rw [digitsValue_append, zeros, digitsValue_replicate_zero, List.length_replicate, Nat.add_zero]

theorem length_zeros (count : Int) : (zeros count).length = count.toNat :=
  List.length_replicate

theorem leadingExponent_eq (hd : d.digits ≠ 0) :
    d.leadingExponent = d.exponent + (digitChars d.digits).length - 1 := by
  rw [leadingExponent, length_digitChars hd]

/-- Zeros behind the digits make up for a smaller exponent. -/
theorem value_eq_of_digits {e : Decimal} {places : Nat} (hnegative : e.negative = d.negative)
    (hdigits : e.digits = d.digits * 10 ^ places) (hexponent : e.exponent + places = d.exponent) :
    e.value = d.value := by
  rw [value, value, hnegative, hdigits, ← hexponent, zpow_add₀ (by decide), zpow_natCast]
  push_cast
  ring

section Positional

variable {whole fraction : List Char}

theorem isShown_positional {places : Nat} (hplaces : places ≤ (d.exponent + 1).toNat)
    (hwhole : ∀ c ∈ whole, c.isDigit = true)
    (hfraction : ∀ c ∈ fraction, c.isDigit = true) (hne : whole ≠ [])
    (hzero : whole = ['0'] ∨ whole.head? ≠ some '0') (hfractionNe : fraction ≠ [])
    (hdigits : digitsValue (whole ++ fraction) = d.digits * 10 ^ places)
    (hexponent : (places : Int) - fraction.length = d.exponent) :
    d.IsShown ⟨d.negative, whole, fraction, false, []⟩ := by
  have hplace : (Numeral.toDecimal ⟨d.negative, whole, fraction, false, []⟩).exponent =
      d.exponent - places := by
    have hnone : (digitsValue [] : Int) = 0 := rfl
    rw [Numeral.toDecimal]
    dsimp only
    rw [if_neg Bool.false_ne_true, hnone]
    omega
  exact
    { isPlain := ⟨hwhole, hfraction, nofun, hne, hzero, fun _ => rfl⟩
      isFloat := .inl hfractionNe
      negative := rfl
      value := value_eq_of_digits rfl hdigits (by omega)
      digits_le := by
        rw [Numeral.toDecimal, hdigits]
        exact Nat.mul_le_mul_left _ (Nat.pow_le_pow_right (by decide) hplaces)
      le_exponent := by omega
      exponent_le := by omega }

theorem isShown_small (hd : d.digits ≠ 0) (hleading : d.leadingExponent < 0) :
    d.IsShown
      ⟨d.negative, ['0'], zeros (-d.leadingExponent - 1) ++ digitChars d.digits, false, []⟩ := by
  have hlength := leadingExponent_eq hd
  have hvalue : digitsValue (zeros 1 ++ (zeros (-d.leadingExponent - 1) ++ digitChars d.digits)) =
      d.digits * 10 ^ 0 := by
    rw [digitsValue_zeros_append, digitsValue_zeros_append, digitsValue_digitChars, pow_zero,
      Nat.mul_one]
  refine isShown_positional (Nat.zero_le _) (by simp) ?_ (List.cons_ne_nil _ _) (.inl rfl)
    (List.append_ne_nil_of_right_ne_nil _ (digitChars_ne_nil _)) hvalue ?_
  · intro c hc
    rcases List.mem_append.mp hc with hzero | hdigit
    · exact isDigit_of_mem_zeros hzero
    · exact isDigit_of_mem_digitChars hdigit
  · rw [List.length_append, length_zeros]
    omega

theorem head?_digitChars (hd : d.digits ≠ 0) : (digitChars d.digits).head? ≠ some '0' :=
  head?_toDigits_ne hd

/-- A number whose digits end in front of the point. -/
theorem isShown_whole (hd : d.digits ≠ 0)
    (hlength : (digitChars d.digits).length ≤ d.leadingExponent + 1) :
    d.IsShown ⟨d.negative, digitChars d.digits ++ zeros d.exponent, ['0'], false, []⟩ := by
  have hexponent := leadingExponent_eq hd
  obtain ⟨places, hplaces⟩ := Int.eq_ofNat_of_zero_le (by omega : 0 ≤ d.exponent)
  have hvalue : digitsValue (digitChars d.digits ++ zeros d.exponent ++ zeros 1) =
      d.digits * 10 ^ (places + 1) := by
    rw [digitsValue_append_zeros, digitsValue_append_zeros, digitsValue_digitChars, hplaces,
      Int.toNat_natCast, Nat.mul_assoc, ← pow_add]
    rfl
  refine isShown_positional (by omega) ?_ (by simp)
    (List.append_ne_nil_of_left_ne_nil (digitChars_ne_nil _) _) (.inr ?_) (List.cons_ne_nil _ _)
    hvalue ?_
  · intro c hc
    rcases List.mem_append.mp hc with hdigit | hzero
    · exact isDigit_of_mem_digitChars hdigit
    · exact isDigit_of_mem_zeros hzero
  · rw [List.head?_append, Option.or_of_isSome (List.isSome_head?.mpr (digitChars_ne_nil _))]
    exact head?_digitChars hd
  · rw [hplaces]
    simp

/-- A number whose digits go on behind the point. -/
theorem isShown_mixed (hd : d.digits ≠ 0) (hleading : 0 ≤ d.leadingExponent)
    (hlength : d.leadingExponent + 1 < (digitChars d.digits).length) :
    d.IsShown ⟨d.negative, (digitChars d.digits).take (d.leadingExponent.toNat + 1),
      (digitChars d.digits).drop (d.leadingExponent.toNat + 1), false, []⟩ := by
  have hexponent := leadingExponent_eq hd
  have hvalue : digitsValue ((digitChars d.digits).take (d.leadingExponent.toNat + 1) ++
      (digitChars d.digits).drop (d.leadingExponent.toNat + 1)) = d.digits * 10 ^ 0 := by
    rw [List.take_append_drop, digitsValue_digitChars, pow_zero, Nat.mul_one]
  refine isShown_positional (Nat.zero_le _)
    (fun c hc => isDigit_of_mem_digitChars (List.mem_of_mem_take hc))
    (fun c hc => isDigit_of_mem_digitChars (List.mem_of_mem_drop hc)) ?_ (.inr ?_) ?_ hvalue ?_
  · simp [digitChars_ne_nil]
  · rw [List.head?_take, if_neg (Nat.succ_ne_zero _)]
    exact head?_digitChars hd
  · rw [Ne, List.drop_eq_nil_iff]
    omega
  · rw [List.length_drop]
    omega

end Positional

theorem isShown_scientific (hd : d.digits ≠ 0) :
    d.IsShown ⟨d.negative, (digitChars d.digits).take 1, (digitChars d.digits).drop 1,
      d.leadingExponent < 0, digitChars d.leadingExponent.natAbs⟩ := by
  have hdecimal : Numeral.toDecimal ⟨d.negative, (digitChars d.digits).take 1,
      (digitChars d.digits).drop 1, d.leadingExponent < 0,
      digitChars d.leadingExponent.natAbs⟩ = d := by
    have hlength := List.length_pos_iff.mpr (digitChars_ne_nil d.digits)
    have hexponent := leadingExponent_eq hd
    rw [Numeral.toDecimal]
    dsimp only
    rw [List.take_append_drop, digitsValue_digitChars, digitsValue_digitChars, List.length_drop]
    congr 1
    simp only [decide_eq_true_eq]
    omega
  exact
    { isPlain :=
        { wholeDigits := fun c hc => isDigit_of_mem_digitChars (List.mem_of_mem_take hc)
          fractionDigits := fun c hc => isDigit_of_mem_digitChars (List.mem_of_mem_drop hc)
          exponentDigits := fun c hc => isDigit_of_mem_digitChars hc
          whole_ne_nil := by simp [digitChars_ne_nil]
          whole_zero := by
            rw [List.head?_take, if_neg Nat.one_ne_zero]
            exact .inr (head?_digitChars hd)
          exponent_nil := fun hnil => absurd hnil (digitChars_ne_nil _) }
      isFloat := .inr (digitChars_ne_nil _)
      negative := rfl
      value := by rw [hdecimal]
      digits_le := by
        rw [hdecimal]
        exact Nat.le_mul_of_pos_right _ (Nat.pow_pos (by decide))
      le_exponent := by
        rw [hdecimal]
        exact min_le_left _ _
      exponent_le := by
        rw [hdecimal]
        exact le_max_left _ _ }

theorem isShown_zero (hd : d.digits = 0) :
    d.IsShown ⟨d.negative, ['0'], ['0'], false, []⟩ where
  isPlain := ⟨by simp, by simp, nofun, List.cons_ne_nil _ _, .inl rfl, fun _ => rfl⟩
  isFloat := .inl (List.cons_ne_nil _ _)
  negative := rfl
  value := by
    have hdigits : (Numeral.toDecimal ⟨d.negative, ['0'], ['0'], false, []⟩).digits = 0 := rfl
    rw [value, value, hdigits, hd]
    simp
  digits_le := Nat.zero_le _
  le_exponent := min_le_right _ _
  exponent_le := le_max_right _ _

/-- A moderate decimal is printed as a numeral that is read exactly. -/
theorem IsShown.moderate {n : Numeral} (hshown : d.IsShown n) (hd : d.IsModerate) :
    n.toDecimal.digits < Nat.pow 2 53 ∧ n.toDecimal.exponent.natAbs ≤ 22 := by
  have hle := hd.exponent_le
  have hlow := hshown.le_exponent
  have hhigh := hshown.exponent_le
  exact ⟨lt_of_le_of_lt hshown.digits_le hd.digits_lt, by omega⟩

/-! ### The layout -/

section Layout

variable {digits : List Char}

theorem positional_small (hleading : leading < 0) :
    Number.layout.positional digits leading = '0' :: '.' :: (zeros (-leading - 1) ++ digits) := by
  rw [Layout.positional, if_pos hleading]

theorem positional_whole (hleading : 0 ≤ leading) (hlength : (digits.length : Int) ≤ leading + 1) :
    Number.layout.positional digits leading =
      digits ++ zeros (leading + 1 - digits.length) ++ ['.', '0'] := by
  obtain ⟨place, rfl⟩ := Int.eq_ofNat_of_zero_le hleading
  have hle : digits.length ≤ place + 1 := by omega
  rw [Layout.positional, if_neg (Int.not_lt.mpr hleading)]
  dsimp only
  rw [Int.toNat_natCast, List.take_of_length_le hle, List.drop_of_length_le hle]
  rfl

theorem positional_mixed (hleading : 0 ≤ leading) (hlength : leading + 1 < digits.length) :
    Number.layout.positional digits leading =
      digits.take (leading.toNat + 1) ++ '.' :: digits.drop (leading.toNat + 1) := by
  have hdrop : digits.drop (leading.toNat + 1) ≠ [] := by
    rw [Ne, List.drop_eq_nil_iff]
    omega
  have hzeros : zeros (((leading.toNat + 1 : Nat) : Int) - digits.length) = [] := by
    rw [zeros, Int.toNat_of_nonpos (by omega)]
    rfl
  rw [Layout.positional, if_neg (Int.not_lt.mpr hleading)]
  dsimp only
  rw [hzeros, List.append_nil, if_neg (mt List.isEmpty_iff.mp hdrop)]

theorem scientific_eq (digits : List Char) (leading : Int) :
    Number.layout.scientific digits leading =
      digits.take 1 ++ ((if digits.drop 1 = [] then [] else '.' :: digits.drop 1) ++
        'e' :: (if leading < 0 then '-' else '+') :: digitChars leading.natAbs) := by
  have hsign : (if leading < 0 then ['-'] else if Number.layout.plusSign then ['+'] else []) =
      [if leading < 0 then '-' else '+'] := by
    split <;> rfl
  rw [Layout.scientific, List.append_assoc, hsign]
  simp only [List.isEmpty_iff]
  rfl

end Layout

/-- However a decimal is laid out, it is shown. -/
theorem exists_isShown (d : Decimal) : ∃ n, d.IsShown n ∧ Number.layout.write d = n.write := by
  by_cases hd : d.digits = 0
  · refine ⟨_, isShown_zero hd, ?_⟩
    rw [Layout.write, if_pos hd, hd]
    rfl
  · have hexponent := leadingExponent_eq hd
    rw [Layout.write, if_neg hd]
    split
    · rcases lt_or_ge d.leadingExponent 0 with hlt | hge
      · refine ⟨_, isShown_small hd hlt, ?_⟩
        have hne := List.append_ne_nil_of_right_ne_nil (zeros (-d.leadingExponent - 1))
          (digitChars_ne_nil d.digits)
        rw [positional_small hlt, Numeral.write, Numeral.fractionText, if_neg hne,
          Numeral.exponentText, if_pos rfl, List.append_nil]
        rfl
      · rcases le_or_gt ((digitChars d.digits).length : Int) (d.leadingExponent + 1) with hle | hgt
        · refine ⟨_, isShown_whole hd hle, ?_⟩
          have hplaces : d.leadingExponent + 1 - (digitChars d.digits).length = d.exponent := by
            omega
          rw [positional_whole hge hle, hplaces]
          rfl
        · refine ⟨_, isShown_mixed hd hge hgt, ?_⟩
          have hdrop : (digitChars d.digits).drop (d.leadingExponent.toNat + 1) ≠ [] := by
            rw [Ne, List.drop_eq_nil_iff]
            omega
          rw [positional_mixed hge hgt, Numeral.write, Numeral.fractionText, if_neg hdrop,
            Numeral.exponentText, if_pos rfl, List.append_nil]
    · refine ⟨_, isShown_scientific hd, ?_⟩
      rw [scientific_eq, Numeral.write, Numeral.fractionText, Numeral.exponentText,
        if_neg (digitChars_ne_nil _)]
      simp only [decide_eq_true_eq]

end Decimal

/-! ### Reading a printed number -/

theorem Decimal.digits_eq_zero_of_value {d : Decimal} (hvalue : d.value = 0) : d.digits = 0 := by
  have habs := d.abs_value
  rw [hvalue, abs_zero, eq_comm, mul_eq_zero] at habs
  exact_mod_cast habs.resolve_right (Decimal.ten_zpow_pos _).ne'

theorem Finite64.eq_zero_of_units {x : Finite64} (hunits : x.units = 0) : x = .zero x.negative := by
  cases x with
  | mk negative units representable =>
      cases hunits
      rfl

/-- What shows the shortest decimal of a float is nearest to that float, also with the sign of
zero. -/
theorem Numeral.toBinary64_of_isShown {n : Numeral} {x : Finite64} {tie : Decimal.Tie}
    (hshown : (x.shortest tie).IsShown n) : n.toDecimal.toBinary64 = .finite x := by
  by_cases hx : x.value = 0
  · have hunits : x.units = 0 := by
      by_contra hne
      exact Finite64.value_ne_zero_iff.mpr hne hx
    have hdigits : n.toDecimal.digits = 0 := by
      apply Decimal.digits_eq_zero_of_value
      rw [hshown.value, Finite64.value_shortest_eq_zero tie hx]
    have hnegative : n.toDecimal.negative = x.negative := by
      apply hshown.negative.trans
      rw [Finite64.shortest, if_pos hunits]
    rw [Decimal.toBinary64, if_pos hdigits, hnegative, ← Finite64.eq_zero_of_units hunits]
  · rw [Decimal.readsBack_iff hx, hshown.value]
    exact Finite64.rounded?_shortest tie x

namespace Number

/-- What the number is printed as is read as the number. -/
def IsReadBack (number : Number) : Prop :=
  Json.takeNumber? number.write = some (some number, [])

theorem isReadBack_iff {number : Number} {n : Numeral} (hplain : n.IsPlain)
    (hwrite : number.write = n.write) :
    number.IsReadBack ↔ Json.ofNumeral? n = some number := by
  have hnone : Numeral.EndsNumber [] := nofun
  have htake := Json.takeNumber?_write hplain hnone
  rw [List.append_nil] at htake
  rw [IsReadBack, hwrite, htake]
  simp

theorem exists_numeral_int (n : Int) (hword : Json.IsWord n) :
    ∃ numeral : Numeral, numeral.IsPlain ∧ (Number.int n hword).write = numeral.write ∧
      Json.ofNumeral? numeral = some (.int n hword) := by
  have hdigits : digitsValue (Decimal.digitChars n.natAbs) = n.natAbs :=
    Decimal.digitsValue_digitChars _
  refine ⟨⟨n < 0, Decimal.digitChars n.natAbs, [], false, []⟩, ⟨?_, nofun, nofun,
    Decimal.digitChars_ne_nil _, ?_, fun _ => rfl⟩, ?_, ?_⟩
  · exact fun c hc => Decimal.isDigit_of_mem_digitChars hc
  · by_cases hn : n.natAbs = 0
    · rw [hn]
      exact .inl rfl
    · exact .inr (head?_toDigits_ne hn)
  · rw [Number.write, Numeral.write, Numeral.fractionText, Numeral.exponentText, if_pos rfl,
      if_pos rfl, List.append_nil, List.append_nil]
  · have hsigned : (if decide (n < 0) = true then -(n.natAbs : Int) else n.natAbs) = n := by
      simp only [decide_eq_true_eq]
      omega
    have hzero : ¬ (decide (n < 0) = true ∧ n.natAbs = 0) := by
      rintro ⟨hnegative, hnone⟩
      rw [decide_eq_true_eq] at hnegative
      omega
    simp only [Json.ofNumeral?, hdigits, hsigned]
    rw [dif_pos ⟨trivial, trivial, hzero, hword⟩]

/-- Each number is printed as a numeral. -/
theorem exists_numeral (number : Number) :
    ∃ n : Numeral, n.IsPlain ∧ number.write = n.write := by
  cases number with
  | int n hword =>
      obtain ⟨numeral, hplain, hwrite, -⟩ := exists_numeral_int n hword
      exact ⟨numeral, hplain, hwrite⟩
  | float x =>
      obtain ⟨n, hshown, hwrite⟩ := Decimal.exists_isShown (x.shortest Number.layout.tie)
      exact ⟨n, hshown.isPlain, hwrite⟩

theorem isReadBack_int (n : Int) (hword : Json.IsWord n) : (Number.int n hword).IsReadBack := by
  obtain ⟨numeral, hplain, hwrite, hread⟩ := exists_numeral_int n hword
  exact (isReadBack_iff hplain hwrite).mpr hread

/-- For a float of few digits reading rounds but once, and the nearest number is the float. -/
theorem isReadBack_float {x : Finite64} (hx : (x.shortest Number.layout.tie).IsModerate) :
    (Number.float x).IsReadBack := by
  obtain ⟨n, hshown, hwrite⟩ := Decimal.exists_isShown (x.shortest Number.layout.tie)
  obtain ⟨hdigits, hexponent⟩ := hshown.moderate hx
  have hwritten : (Number.float x).write = n.write := hwrite
  rw [isReadBack_iff hshown.isPlain hwritten, Json.ofNumeral?, dif_neg]
  · rw [Numeral.readFloat?_eq_finite? hshown.isPlain.isAscii hdigits hexponent, Numeral.finite?,
      Numeral.toBinary64?, if_pos hshown.isPlain.isAscii, Option.bind_some,
      Numeral.toBinary64_of_isShown hshown]
    rfl
  · rintro ⟨hfraction, hexponent, -⟩
    exact hshown.isFloat.elim (absurd hfraction) (absurd hexponent)

end Number

namespace Json

/-- A number starts with its sign or with a digit. -/
theorem exists_number_write_eq_cons (number : Number) :
    ∃ c others, number.write = c :: others ∧ (c = '-' ∨ c.isDigit = true) := by
  obtain ⟨n, hplain, hwrite⟩ := number.exists_numeral
  rw [hwrite, Numeral.write]
  cases n.negative with
  | true => exact ⟨'-', _, rfl, .inl rfl⟩
  | false =>
      obtain ⟨c, others, hwhole⟩ := List.exists_cons_of_ne_nil hplain.whole_ne_nil
      rw [hwhole]
      exact ⟨c, _, rfl, .inr (hplain.wholeDigits c (by simp [hwhole]))⟩

theorem mem_number_write {number : Number} {c : Char} (hc : c ∈ number.write) :
    c.isDigit = true ∨ c ∈ ['-', '+', '.', 'e'] := by
  obtain ⟨n, hplain, hwrite⟩ := number.exists_numeral
  rw [hwrite, Numeral.write, List.mem_append, List.mem_append, List.mem_append] at hc
  rcases hc with hsign | hwhole | hfraction | hexponent
  · rw [Decimal.signChars] at hsign
    split at hsign
    · rw [List.mem_singleton.mp hsign]
      exact .inr (by decide)
    · cases hsign
  · exact .inl (hplain.wholeDigits c hwhole)
  · rw [Numeral.fractionText] at hfraction
    split at hfraction
    · cases hfraction
    · rcases List.mem_cons.mp hfraction with rfl | hdigit
      · exact .inr (by decide)
      · exact .inl (hplain.fractionDigits c hdigit)
  · rw [Numeral.exponentText] at hexponent
    split at hexponent
    · cases hexponent
    · rw [List.mem_cons, List.mem_cons] at hexponent
      rcases hexponent with rfl | rfl | hdigit
      · exact .inr (by decide)
      · cases n.exponentNegative <;> exact .inr (by decide)
      · exact .inl (hplain.exponentDigits c hdigit)

/-- Whatever comes behind a number, if it is no part of one, the number is read back. -/
theorem takeNumber?_printed {number : Number} (hnumber : number.IsReadBack) {tail : List Char}
    (htail : Numeral.EndsNumber tail) :
    takeNumber? (number.write ++ tail) = some (some number, tail) := by
  obtain ⟨n, hplain, hwrite⟩ := number.exists_numeral
  rw [hwrite, takeNumber?_write hplain htail, (Number.isReadBack_iff hplain hwrite).mp hnumber]

end Json

end DotQuery

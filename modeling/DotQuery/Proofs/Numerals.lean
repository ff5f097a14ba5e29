import DotQuery.Decimal.Numeral
import DotQuery.Proofs.Cut
import DotQuery.Proofs.Digits

/-!
# Literals at the start of a text

A literal ends before the first character that cannot go on with it. So what follows such a
character does not change the number that is read, and neither does white space at either end.
-/

namespace DotQuery

namespace Text

theorem not_isDecimalDigit_of_isBlank {c : Char} (hc : isBlank c = true) :
    isDecimalDigit c = false := by
  -- the other scripts leave out the stretches in which all white space beyond ASCII lies
  have hranges : ∀ range ∈ decimalDigitRanges.toList,
      0x20 < range.1 ∧ range.2 < 0x85 ∨ 0xA0 < range.1 ∧ range.2 < 0x1680 ∨
        0x1680 < range.1 ∧ range.2 < 0x2000 ∨ 0x3000 < range.1 := by
    decide
  by_contra hdigit
  rw [Bool.not_eq_false, isDecimalDigit] at hdigit
  split at hdigit
  · rw [not_blank_of_isDigit hdigit] at hc
    cases hc
  · rw [inRanges, Array.any_eq_true'] at hdigit
    obtain ⟨range, hmem, hin⟩ := hdigit
    have hrange := hranges range (Array.mem_toList_iff.mpr hmem)
    simp only [isBlank, Bool.and_eq_true, Bool.or_eq_true, decide_eq_true_eq, beq_iff_eq] at hin hc
    omega

/-- White space at the end of a text goes with what is left there. -/
theorem exists_trimStart_eq (text : List Char) :
    ∃ blanks, trimStart text = trim text ++ blanks ∧ ∀ c ∈ blanks, isBlank c = true := by
  rw [trim]
  generalize trimStart text = rest
  refine ⟨(rest.reverse.takeWhile isBlank).reverse, ?_, ?_⟩
  · calc rest = (rest.reverse.takeWhile isBlank ++ rest.reverse.dropWhile isBlank).reverse := by
          rw [List.takeWhile_append_dropWhile, List.reverse_reverse]
      _ = trimEnd rest ++ (rest.reverse.takeWhile isBlank).reverse := List.reverse_append
  · intro c hc
    exact List.mem_takeWhile_imp (List.mem_reverse.mp hc)

theorem trimStart_trim (text : List Char) : trimStart (trim text) = trim text := by
  obtain ⟨blanks, htext, -⟩ := exists_trimStart_eq text
  cases htrim : trim text with
  | nil => rfl
  | cons c rest =>
      rw [htrim, List.cons_append] at htext
      have hc : isBlank c = false := by
        have hhead := List.head?_dropWhile_not isBlank text
        rw [← trimStart, htext] at hhead
        simpa using hhead
      rw [trimStart, List.dropWhile_cons_of_neg (by simp [hc])]

theorem trim_eq_nil_iff {text : List Char} : trim text = [] ↔ isAllBlank text = true := by
  rw [isAllBlank, List.all_eq_true]
  refine ⟨isBlank_of_trim_eq_nil, fun hblank => ?_⟩
  have hstart : trimStart text = [] := List.dropWhile_eq_nil_iff.mpr hblank
  rw [trim, hstart]
  rfl

end Text

namespace Numeral

variable {text tail digits : List Char} {negative : Bool}

/-! ### Literals that end -/

/-- No literal goes on with this text. -/
def EndsLiteral (tail : List Char) : Prop :=
  ∀ c ∈ tail.head?, Text.isDecimalDigit c = false ∧ c ∉ ['.', 'e', 'E', '+', '-']

theorem endsLiteral_of_isBlank (htail : ∀ c ∈ tail, Text.isBlank c = true) :
    EndsLiteral tail := by
  intro c hc
  have hblank := htail c (List.mem_of_mem_head? hc)
  refine ⟨Text.not_isDecimalDigit_of_isBlank hblank, ?_⟩
  intro hmark
  simp only [List.mem_cons, List.not_mem_nil, or_false] at hmark
  rcases hmark with rfl | rfl | rfl | rfl | rfl <;> cases hblank

theorem takeDigits_append (htail : EndsLiteral tail) (text : List Char) :
    takeDigits (text ++ tail) = ((takeDigits text).1, (takeDigits text).2 ++ tail) := by
  induction text with
  | nil =>
      cases tail with
      | nil => rfl
      | cons c rest =>
          obtain ⟨hdigit, -⟩ := htail c rfl
          simp [takeDigits, hdigit]
  | cons c rest ih =>
      simp only [takeDigits, Prod.mk.injEq] at ih
      cases hc : Text.isDecimalDigit c with
      | true => simp [takeDigits, hc, ih]
      | false => simp [takeDigits, hc]

theorem takeSign_append (htail : EndsLiteral tail) (text : List Char) :
    takeSign (text ++ tail) = ((takeSign text).1, (takeSign text).2 ++ tail) := by
  cases text with
  | nil =>
      cases tail with
      | nil => rfl
      | cons c rest =>
          obtain ⟨-, hmark⟩ := htail c rfl
          rw [List.nil_append, takeSign.eq_3]
          · rfl
          · rintro _ ⟨⟩
            exact hmark (by simp)
          · rintro _ ⟨⟩
            exact hmark (by simp)
  | cons c rest =>
      by_cases hminus : c = '-'
      · rw [hminus]
        rfl
      · by_cases hplus : c = '+'
        · rw [hplus]
          rfl
        · have hplain (others : List Char) : takeSign (c :: others) = (false, c :: others) := by
            rw [takeSign.eq_3]
            · rintro _ ⟨⟩
              exact hminus rfl
            · rintro _ ⟨⟩
              exact hplus rfl
          rw [List.cons_append, hplain, hplain]
          rfl

theorem takeSignificand?_append (htail : EndsLiteral tail) (text : List Char) :
    takeSignificand? (text ++ tail) =
      (takeSignificand? text).map fun part => (part.1, part.2 ++ tail) := by
  have hpoint (rest : List Char) : tail ≠ '.' :: rest := by
    rintro rfl
    exact (htail '.' rfl).2 (by simp)
  unfold takeSignificand?
  rw [takeDigits_append htail]
  generalize takeDigits text = part
  obtain ⟨whole, rest⟩ := part
  cases rest with
  | nil => cases whole <;> simp
  | cons c rest =>
      by_cases hc : c = '.'
      · subst hc
        have hfraction := takeDigits_append htail rest
        rcases hdigits : takeDigits rest with ⟨fraction, others⟩
        rw [hdigits] at hfraction
        cases whole <;> cases fraction <;> simp [hdigits, hfraction]
      · cases whole <;> simp [hc]

theorem takeExponent_append (htail : EndsLiteral tail) (text : List Char) :
    takeExponent (text ++ tail) = ((takeExponent text).1, (takeExponent text).2 ++ tail) := by
  cases text with
  | nil =>
      cases tail with
      | nil => rfl
      | cons c rest =>
          obtain ⟨-, hmark⟩ := htail c rfl
          have hnot : ¬(c = 'e' ∨ c = 'E') := by
            rintro (rfl | rfl) <;> simp at hmark
          simp [takeExponent, hnot]
  | cons c rest =>
      by_cases hmark : c = 'e' ∨ c = 'E'
      · have hexponent := takeDigits_append htail (takeSign rest).2
        rcases hdigits : takeDigits (takeSign rest).2 with ⟨exponent, others⟩
        rw [hdigits] at hexponent
        simp only [takeExponent, List.cons_append, if_pos hmark, takeSign_append htail, hexponent,
          hdigits]
        cases exponent <;> rfl
      · simp only [takeExponent, List.cons_append, if_neg hmark]

theorem take?_append (htail : EndsLiteral tail) (text : List Char) :
    take? (text ++ tail) = (take? text).map fun part => (part.1, part.2 ++ tail) := by
  unfold take?
  rw [takeSign_append htail]
  dsimp only
  rw [takeSignificand?_append htail]
  cases takeSignificand? (takeSign text).2 with
  | none => rfl
  | some part =>
      simp [takeExponent_append htail]

/-! ### Literals of digits -/

theorem takeSign_of_isDigit (hne : digits ≠ []) (hdigits : ∀ c ∈ digits, c.isDigit = true) :
    takeSign digits = (false, digits) := by
  cases digits with
  | nil => exact absurd rfl hne
  | cons c rest =>
      rw [List.forall_mem_cons] at hdigits
      rw [takeSign.eq_3]
      · rintro _ ⟨⟩
        cases hdigits.1
      · rintro _ ⟨⟩
        cases hdigits.1

theorem take?_of_digits (hsign : takeSign text = (negative, digits)) (hne : digits ≠ [])
    (hdigits : ∀ c ∈ digits, c.isDigit = true) :
    take? text = some (⟨negative, digits, [], false, []⟩, []) := by
  have hall : takeDigits digits = (digits, []) := by
    have hdecimal (c : Char) (hc : c ∈ digits) : Text.isDecimalDigit c = true :=
      Text.isDecimalDigit_of_isDigit (hdigits c hc)
    rw [takeDigits, List.takeWhile_eq_self_iff.mpr hdecimal, List.dropWhile_eq_nil_iff.mpr hdecimal]
  have hsignificand : takeSignificand? digits = some ((digits, []), []) := by
    rw [takeSignificand?, hall]
    cases digits with
    | nil => exact absurd rfl hne
    | cons c rest => rfl
  rw [take?, hsign]
  dsimp only
  rw [hsignificand]
  rfl

end Numeral

/-! ### Numbers -/

/-- White space at either end of the text does not matter. -/
theorem parseLeadingNumber?_trim (text : List Char) :
    parseLeadingNumber? (Text.trim text) = parseLeadingNumber? text := by
  obtain ⟨blanks, htext, hblanks⟩ := Text.exists_trimStart_eq text
  rw [parseLeadingNumber?, parseLeadingNumber?, Text.trimStart_trim, htext,
    Numeral.take?_append (Numeral.endsLiteral_of_isBlank hblanks)]
  cases Numeral.take? (Text.trim text) <;> rfl

end DotQuery

import DotQuery.Proofs.Cut
import DotQuery.Proofs.Quoting

/-!
# Filter expressions

Every symbol of a comparator ends in one of three marks, and besides marks it holds at most an
exclamation mark in front. So in a text with marks in one place only, no symbol can arise across the
seams of that place, unless the text before it ends in an exclamation mark. This is why a key, a
comparator and an operand that are written one after another are read back. Without those
conditions the key still ends at the first symbol of the comparator that is found, but the operand
ends at the second one, and what stands behind that is lost.
-/

namespace DotQuery.Query

open Text

variable {comparator other : Comparator} {text key operand rest : List Char}

/-! ### Symbols -/

/-- The characters that no comparator does without. -/
def isMark (c : Char) : Bool :=
  c == '=' || c == '<' || c == '>'

def IsMarkless (text : List Char) : Prop :=
  ∀ c ∈ text, isMark c = false

instance (text : List Char) : Decidable (IsMarkless text) :=
  List.decidableBAll (fun c => isMark c = false) text

namespace Comparator

theorem symbol_ne_nil (comparator : Comparator) : comparator.symbol ≠ [] := by
  cases comparator <;> decide

theorem isMark_getLast (comparator : Comparator) :
    isMark (comparator.symbol.getLast comparator.symbol_ne_nil) = true := by
  cases comparator <;> rfl

theorem mem_symbol (comparator : Comparator) :
    ∀ c ∈ comparator.symbol, isMark c = true ∨ c = '!' := by
  cases comparator <;> simp [symbol, isMark]

theorem exists_mark_of_append {front back : List Char} (hsymbol : comparator.symbol = front ++ back)
    (hback : back ≠ []) : ∃ c ∈ back, isMark c = true := by
  have hlast := comparator.isMark_getLast
  simp only [hsymbol, List.getLast_append_of_ne_nil _ hback] at hlast
  exact ⟨_, List.getLast_mem hback, hlast⟩

theorem not_infix_of_isMarkless (comparator : Comparator) (htext : IsMarkless text) :
    ¬ comparator.symbol <:+: text := by
  intro hoccurs
  obtain ⟨c, hc, hmark⟩ :=
    exists_mark_of_append (List.nil_append comparator.symbol).symm comparator.symbol_ne_nil
  rw [htext c (hoccurs.subset hc)] at hmark
  cases hmark

/-- A symbol that reaches back into the key would have its last character there. -/
theorem infix_key_append_iff (hkey : IsMarkless key) (hend : key.getLast? ≠ some '!') :
    comparator.symbol <:+: key ++ rest ↔ comparator.symbol <:+: rest := by
  refine ⟨fun hoccurs => ?_, fun hoccurs => hoccurs.trans (List.suffix_append key rest).isInfix⟩
  rw [List.infix_append_iff_ne_nil] at hoccurs
  rcases hoccurs with hoccurs | hoccurs | ⟨front, back, hfront, -, hsymbol, hsuffix, -⟩
  · exact absurd hoccurs (comparator.not_infix_of_isMarkless hkey)
  · exact hoccurs
  · obtain ⟨start, rfl⟩ := hsuffix
    have hlast : front.getLast hfront ∈ comparator.symbol := by
      rw [hsymbol]
      exact List.mem_append_left _ (List.getLast_mem hfront)
    rw [List.getLast?_append_of_ne_nil _ hfront, List.getLast?_eq_some_getLast hfront] at hend
    rcases comparator.mem_symbol _ hlast with hmark | hbang
    · rw [hkey _ (List.mem_append_right _ (List.getLast_mem hfront))] at hmark
      cases hmark
    · exact absurd (congrArg some hbang) hend

/-- A symbol that reaches into the operand would have a mark there. -/
theorem infix_append_operand_iff (hoperand : IsMarkless operand) :
    comparator.symbol <:+: rest ++ operand ↔ comparator.symbol <:+: rest := by
  refine ⟨fun hoccurs => ?_, fun hoccurs => hoccurs.trans (List.prefix_append rest operand).isInfix⟩
  rw [List.infix_append_iff_ne_nil] at hoccurs
  rcases hoccurs with hoccurs | hoccurs | ⟨front, back, -, hback, hsymbol, -, hstart⟩
  · exact hoccurs
  · exact absurd hoccurs (comparator.not_infix_of_isMarkless hoperand)
  · obtain ⟨c, hc, hmark⟩ := exists_mark_of_append hsymbol hback
    rw [hoperand c (hstart.subset hc)] at hmark
    cases hmark

end Comparator

/-! ### The comparator of an expression -/

theorem comparator?_eq_none_iff : comparator? text = none ↔ IsMarkless text := by
  rw [comparator?, List.find?_eq_none]
  simp only [contains_iff (Comparator.symbol_ne_nil _)]
  constructor
  · intro hnone c hc
    have hsingle (found : Comparator) (hsymbol : found.symbol = [c])
        (hfound : found ∈ Comparator.precedence) : False :=
      hnone found hfound (hsymbol ▸ (List.singleton_infix_iff c text).mpr hc)
    by_contra hmark
    simp only [isMark, Bool.not_eq_false, Bool.or_eq_true, beq_iff_eq] at hmark
    rcases hmark with (rfl | rfl) | rfl
    · exact hsingle .eq rfl (by decide)
    · exact hsingle .lt rfl (by decide)
    · exact hsingle .gt rfl (by decide)
  · exact fun htext found _ => found.not_infix_of_isMarkless htext

theorem infix_of_comparator? (hcomparator : comparator? text = some comparator) :
    comparator.symbol <:+: text := by
  rw [comparator?] at hcomparator
  have hfound := List.find?_some hcomparator
  exact (contains_iff comparator.symbol_ne_nil).mp hfound

theorem exists_cut?_of_comparator? (hcomparator : comparator? text = some comparator) :
    ∃ key rest, cut? comparator.symbol text = some (key, rest) := by
  have hcut : cut? comparator.symbol text ≠ none := by
    rw [ne_eq, cut?_eq_none_iff comparator.symbol_ne_nil, not_not]
    exact infix_of_comparator? hcomparator
  obtain ⟨⟨key, rest⟩, hcut⟩ := Option.ne_none_iff_exists'.mp hcut
  exact ⟨key, rest, hcut⟩

/-- Where nothing but the symbol has marks, the search comes to the same as in the symbol alone. -/
theorem comparator?_written (comparator : Comparator) (hkey : IsMarkless key)
    (hend : key.getLast? ≠ some '!') (hoperand : IsMarkless operand) :
    comparator? (key ++ comparator.symbol ++ operand) = some comparator := by
  have hsearch : (fun other : Comparator =>
      contains other.symbol (key ++ comparator.symbol ++ operand)) =
        fun other => contains other.symbol comparator.symbol := by
    funext other
    rw [Bool.eq_iff_iff, contains_iff other.symbol_ne_nil, contains_iff other.symbol_ne_nil,
      Comparator.infix_append_operand_iff hoperand, Comparator.infix_key_append_iff hkey hend]
  rw [comparator?, hsearch]
  cases comparator <;> rfl

theorem cut?_written (comparator : Comparator) (operand : List Char) (hkey : IsMarkless key)
    (hend : key.getLast? ≠ some '!') :
    cut? comparator.symbol (key ++ comparator.symbol ++ operand) = some (key, operand) := by
  rw [cut?_eq_some_iff comparator.symbol_ne_nil, Comparator.infix_key_append_iff hkey hend]
  exact ⟨rfl, not_infix_dropLast comparator.symbol_ne_nil⟩

/-! ### The parts of an expression -/

section Parts

variable {expression : String} {equator : Equator} {cause : Cause}

/-- The text up to the first occurrence of the piece, all of it without one. -/
def upTo (piece text : List Char) : List Char :=
  match cut? piece text with
  | some (before, _) => before
  | none => text

theorem upTo_eq_self {piece : List Char} (hpiece : piece ≠ []) (hnot : ¬ piece <:+: text) :
    upTo piece text = text := by
  rw [upTo, (cut?_eq_none_iff hpiece).mpr hnot]

theorem upTo_append {piece before after : List Char} (hpiece : piece ≠ [])
    (hfirst : ¬ piece <:+: before ++ piece.dropLast) :
    upTo piece (before ++ piece ++ after) = before := by
  rw [upTo, (cut?_eq_some_iff hpiece).mpr ⟨rfl, hfirst⟩]

theorem parseEquator_of_cut? (hcomparator : comparator? expression.toList = some comparator)
    (hcut : cut? comparator.symbol expression.toList = some (key, rest)) :
    parseEquator expression =
      .ok ⟨String.ofList key, comparator,
        String.ofList (stripQuotes (upTo comparator.symbol rest))⟩ := by
  simp only [parseEquator, hcomparator, hcut]
  rfl

theorem parseEquator_eq_error_iff :
    parseEquator expression = .error cause ↔
      cause = .noEquator expression ∧ IsMarkless expression.toList := by
  rw [← comparator?_eq_none_iff]
  cases hcomparator : comparator? expression.toList with
  | none =>
      have hparse : parseEquator expression = .error (.noEquator expression) := by
        simp only [parseEquator, hcomparator]
      rw [hparse, Except.error.injEq, eq_comm, and_iff_left rfl]
  | some comparator =>
      obtain ⟨key, rest, hcut⟩ := exists_cut?_of_comparator? hcomparator
      simp [parseEquator_of_cut? hcomparator hcut]

theorem exists_tail_of_parseEquator_eq_ok (hequator : parseEquator expression = .ok equator) :
    ∃ tail,
      cut? equator.comparator.symbol expression.toList = some (equator.key.toList, tail) ∧
      equator.operand.toList = stripQuotes (upTo equator.comparator.symbol tail) := by
  have hsome : comparator? expression.toList ≠ none := by
    intro hnone
    rw [comparator?_eq_none_iff] at hnone
    rw [parseEquator_eq_error_iff.mpr ⟨rfl, hnone⟩] at hequator
    cases hequator
  obtain ⟨comparator, hcomparator⟩ := Option.ne_none_iff_exists'.mp hsome
  obtain ⟨key, tail, hcut⟩ := exists_cut?_of_comparator? hcomparator
  rw [parseEquator_of_cut? hcomparator hcut] at hequator
  obtain rfl := Except.ok.inj hequator
  exact ⟨tail, by rw [String.toList_ofList]; exact hcut, String.toList_ofList⟩

/-- Quotes are taken out of each part by itself, and a symbol has none. -/
theorem length_stripQuotes_lt (comparator : Comparator) (value lost : List Char) :
    (stripQuotes value).length <
      (stripQuotes (value ++ comparator.symbol ++ lost)).length := by
  have hsymbol : stripQuotes comparator.symbol = comparator.symbol := by
    cases comparator <;> rfl
  have hpos := List.length_pos_iff.mpr comparator.symbol_ne_nil
  have hparts : stripQuotes (value ++ comparator.symbol ++ lost) =
      stripQuotes value ++ comparator.symbol ++ stripQuotes lost := by
    rw [stripQuotes, List.filter_append, List.filter_append]
    exact congrArg (stripQuotes value ++ · ++ stripQuotes lost) hsymbol
  rw [hparts, List.length_append, List.length_append]
  omega

/-- The key is followed by the comparator and a tail, and the operand is the tail without quotes,
but only if the comparator does not occur in it again. Otherwise the operand ends there, and the
rest of the tail is lost. -/
theorem operand_ends_at_next_symbol (hequator : parseEquator expression = .ok equator) :
    ∃ tail, expression.toList = equator.key.toList ++ equator.comparator.symbol ++ tail ∧
      (equator.operand.toList = stripQuotes tail ↔ ¬ equator.comparator.symbol <:+: tail) ∧
      ∀ value lost, tail = value ++ equator.comparator.symbol ++ lost →
        ¬ equator.comparator.symbol <:+: value ++ equator.comparator.symbol.dropLast →
        equator.operand.toList = stripQuotes value := by
  have hsymbol := equator.comparator.symbol_ne_nil
  obtain ⟨tail, hcut, hoperand⟩ := exists_tail_of_parseEquator_eq_ok hequator
  obtain ⟨hexpression, -⟩ := (cut?_eq_some_iff hsymbol).mp hcut
  refine ⟨tail, hexpression, ⟨?_, ?_⟩, ?_⟩
  · intro hall hoccurs
    obtain ⟨⟨value, lost⟩, hnext⟩ :=
      Option.ne_none_iff_exists'.mp (mt (cut?_eq_none_iff hsymbol).mp (not_not.mpr hoccurs))
    obtain ⟨rfl, hfirst⟩ := (cut?_eq_some_iff hsymbol).mp hnext
    rw [upTo_append hsymbol hfirst, hall] at hoperand
    have hshorter := length_stripQuotes_lt equator.comparator value lost
    rw [hoperand] at hshorter
    exact lt_irrefl _ hshorter
  · intro hnot
    rw [hoperand, upTo_eq_self hsymbol hnot]
  · rintro value lost rfl hfirst
    rw [hoperand, upTo_append hsymbol hfirst]

/-- The padding of an encoded text is cut off. -/
theorem operand_ends_at_next_symbol_padding :
    parseEquator "code=QUJD==" = .ok ⟨"code", .eq, "QUJD"⟩ ∧
      ∃ tail, "code=QUJD==".toList = "code".toList ++ Comparator.symbol .eq ++ tail ∧
        ("QUJD".toList = stripQuotes tail ↔ ¬ Comparator.symbol .eq <:+: tail) ∧
        ∀ value lost, tail = value ++ Comparator.symbol .eq ++ lost →
          ¬ Comparator.symbol .eq <:+: value ++ (Comparator.symbol .eq).dropLast →
          "QUJD".toList = stripQuotes value :=
  have hequator : parseEquator "code=QUJD==" = .ok ⟨"code", .eq, "QUJD"⟩ := by decide +kernel
  ⟨hequator, operand_ends_at_next_symbol hequator⟩

theorem operand_without_padding :
    parseEquator "code=QUJD==" = .ok ⟨"code", .eq, "QUJD"⟩ ∧
      ¬ ∃ tail, "code=QUJD==".toList = "code".toList ++ Comparator.symbol .eq ++ tail ∧
        "QUJD".toList = stripQuotes tail := by
  refine ⟨by decide +kernel, ?_⟩
  rintro ⟨tail, hexpression, hoperand⟩
  have hsame : "code".toList ++ Comparator.symbol .eq ++ "QUJD==".toList =
      "code".toList ++ Comparator.symbol .eq ++ tail := hexpression
  have htail : "QUJD==".toList = tail := List.append_cancel_left hsame
  rw [← htail] at hoperand
  revert hoperand
  decide

end Parts

/-! ### Reading back -/

theorem parseEquator_append {key operand : String} (comparator : Comparator)
    (hkey : IsMarkless key.toList) (hend : key.toList.getLast? ≠ some '!')
    (hoperand : IsMarkless operand.toList) :
    parseEquator (key ++ String.ofList comparator.symbol ++ operand) =
      .ok ⟨key, comparator, String.ofList (stripQuotes operand.toList)⟩ := by
  have htext : (key ++ String.ofList comparator.symbol ++ operand).toList =
      key.toList ++ comparator.symbol ++ operand.toList := by
    rw [String.toList_append, String.toList_append, String.toList_ofList]
  have hcomparator := comparator?_written comparator hkey hend hoperand
  have hcut := cut?_written comparator operand.toList hkey hend
  have hall := comparator.not_infix_of_isMarkless hoperand
  rw [← htext] at hcomparator hcut
  rw [parseEquator_of_cut? hcomparator hcut, upTo_eq_self comparator.symbol_ne_nil hall,
    String.ofList_toList]

/-- What is written as a key, a comparator and an operand is read as them, and whatever has a mark
is read somehow. -/
theorem parseEquator_inverts_writing (query : String) :
    (∀ (key operand : String) (comparator : Comparator), IsMarkless key.toList →
      key.toList.getLast? ≠ some '!' → IsMarkless operand.toList →
      Quoting.parseEquator query (key ++ String.ofList comparator.symbol ++ operand) =
        .ok ⟨key, comparator,
          String.ofList (operand.toList.filter fun c => c != '"' && c != '\'')⟩) ∧
    ∀ (expression : String) (failure : QueryError),
      (Quoting.parseEquator query expression = .error failure ↔
        failure = ⟨.noEquator expression, query⟩ ∧
          ∀ c ∈ expression.toList, c ≠ '=' ∧ c ≠ '<' ∧ c ≠ '>') ∧
      (Quoting.parseEquator query expression = .error failure → failure.kind = .equator) := by
  have herror (expression : String) (failure : QueryError) :
      Quoting.parseEquator query expression = .error failure ↔
        failure = ⟨.noEquator expression, query⟩ ∧ IsMarkless expression.toList := by
    rw [Quoting.parseEquator_eq, Quoting.blaming, Attempt.mapError_eq_error_iff]
    simp only [parseEquator_eq_error_iff]
    constructor
    · rintro ⟨cause, ⟨rfl, htext⟩, rfl⟩
      exact ⟨rfl, htext⟩
    · rintro ⟨rfl, htext⟩
      exact ⟨_, ⟨rfl, htext⟩, rfl⟩
  refine ⟨?_, fun expression failure => ⟨?_, ?_⟩⟩
  · intro key operand comparator hkey hend hoperand
    rw [Quoting.parseEquator_eq, parseEquator_append comparator hkey hend hoperand,
      stripQuotes_eq_filter]
    rfl
  · rw [herror]
    simp [IsMarkless, isMark, and_assoc]
  · intro hfailure
    obtain ⟨rfl, -⟩ := (herror expression failure).mp hfailure
    rfl

/-- Exclamation marks are harmless inside the key and anywhere in the operand, and of the quotes in
the operand none is left. -/
theorem parseEquator_inverts_writing_exclamation :
    IsMarkless "a!b".toList ∧ "a!b".toList.getLast? ≠ some '!' ∧ IsMarkless "!'1\"'!".toList ∧
      Quoting.parseEquator "q" ("a!b" ++ String.ofList (Comparator.symbol .eq) ++ "!'1\"'!") =
        .ok ⟨"a!b", .eq, "!1!"⟩ ∧
      (Quoting.parseEquator "q" "a!b" = .error ⟨.noEquator "a!b", "q"⟩ →
        QueryError.kind ⟨.noEquator "a!b", "q"⟩ = .equator) := by
  have hkey : IsMarkless "a!b".toList := by decide
  have hend : "a!b".toList.getLast? ≠ some '!' := by decide
  have hoperand : IsMarkless "!'1\"'!".toList := by decide
  obtain ⟨hwritten, hfailure⟩ := parseEquator_inverts_writing "q"
  exact ⟨hkey, hend, hoperand, hwritten "a!b" "!'1\"'!" .eq hkey hend hoperand,
    (hfailure "a!b" ⟨.noEquator "a!b", "q"⟩).2⟩

end DotQuery.Query

import DotQuery.Text.Blank
import DotQuery.Text.Cut
import Mathlib.Data.List.Infix
import Mathlib.Data.List.TakeWhile

/-!
# Taking texts apart

What is cut or dropped can be put back: each operation succeeds exactly if its parts make up the
text.
-/

namespace DotQuery.Text

variable {c : Char} {piece text before after : List Char}

theorem dropLeading?_eq_some_iff :
    dropLeading? piece text = some after ↔ text = piece ++ after :=
  List.isPrefixOf?_eq_some_iff_append_eq.trans eq_comm

theorem dropLeading?_eq_none_iff : dropLeading? piece text = none ↔ ¬ piece <+: text := by
  rw [← not_iff_not, ← ne_eq, Option.ne_none_iff_exists', not_not]
  simp only [dropLeading?_eq_some_iff]
  exact exists_congr fun _ => eq_comm

theorem dropTrailing?_eq_some_iff :
    dropTrailing? piece text = some before ↔ text = before ++ piece :=
  List.isSuffixOf?_eq_some_iff_append_eq.trans eq_comm

/-- Without its last character the piece reaches behind `before` exactly as far as it does whole. -/
theorem prefix_append_dropLast_iff (hbefore : before ≠ []) :
    piece <+: before ++ piece.dropLast ↔ piece <+: before ++ piece ++ after := by
  have hinit : before ++ piece.dropLast <+: before ++ piece ++ after :=
    ((List.prefix_append_right_inj before).mpr (List.dropLast_prefix piece)).trans
      (List.prefix_append _ _)
  refine ⟨fun hstart => hstart.trans hinit, fun hstart => ?_⟩
  apply List.prefix_of_prefix_length_le hstart hinit
  have hpos := List.length_pos_iff.mpr hbefore
  rw [List.length_append, List.length_dropLast]
  omega

theorem not_infix_dropLast (hpiece : piece ≠ []) : ¬ piece <:+: piece.dropLast := by
  intro hoccurs
  have hlength := hoccurs.length_le
  have hpos := List.length_pos_iff.mpr hpiece
  rw [List.length_dropLast] at hlength
  omega

/-- A text is cut where the piece occurs first, that is, where no occurrence ends earlier. -/
theorem cut?_eq_some_iff (hpiece : piece ≠ []) :
    cut? piece text = some (before, after) ↔
      text = before ++ piece ++ after ∧ ¬ piece <:+: before ++ piece.dropLast := by
  induction text generalizing before with
  | nil => simp [cut?, hpiece]
  | cons c rest ih =>
      have hlater (others : List Char) (hrest : rest = others ++ piece ++ after) :
          piece <:+: c :: others ++ piece.dropLast ↔
            piece <+: c :: rest ∨ piece <:+: others ++ piece.dropLast := by
        rw [List.cons_append, List.infix_cons_iff, ← List.cons_append,
          prefix_append_dropLast_iff (List.cons_ne_nil c others), hrest, List.cons_append,
          List.cons_append]
      rw [cut?]
      cases hdrop : dropLeading? piece (c :: rest) with
      | some tail =>
          have htext := dropLeading?_eq_some_iff.mp hdrop
          rw [Option.some.injEq, Prod.mk.injEq]
          cases before with
          | nil =>
              rw [List.nil_append, htext, List.append_cancel_left_eq]
              exact ⟨fun h => ⟨h.2, not_infix_dropLast hpiece⟩, fun h => ⟨rfl, h.1⟩⟩
          | cons first others =>
              refine ⟨fun h => absurd h.1 (List.cons_ne_nil first others).symm, ?_⟩
              rintro ⟨hbefore, hfirst⟩
              obtain ⟨rfl, hrest⟩ := List.cons.inj hbefore
              exact absurd ((hlater others hrest).mpr (.inl ⟨tail, htext.symm⟩)) hfirst
      | none =>
          have hnot := dropLeading?_eq_none_iff.mp hdrop
          rw [Option.map_eq_some_iff]
          constructor
          · rintro ⟨⟨others, tail⟩, hcut, heq⟩
            cases heq
            obtain ⟨hrest, hfirst⟩ := ih.mp hcut
            exact ⟨by rw [hrest]; rfl, fun h => ((hlater others hrest).mp h).elim hnot hfirst⟩
          · rintro ⟨hbefore, hfirst⟩
            cases before with
            | nil => exact absurd ⟨after, hbefore.symm⟩ hnot
            | cons first others =>
                obtain ⟨rfl, hrest⟩ := List.cons.inj hbefore
                rw [hlater others hrest, not_or] at hfirst
                exact ⟨(others, after), ih.mpr ⟨hrest, hfirst.2⟩, rfl⟩

theorem cut?_eq_none_iff (hpiece : piece ≠ []) : cut? piece text = none ↔ ¬ piece <:+: text := by
  induction text with
  | nil => simp [cut?, hpiece]
  | cons c rest ih =>
      rw [cut?, List.infix_cons_iff, not_or, ← ih]
      cases hdrop : dropLeading? piece (c :: rest) with
      | some tail =>
          have hstart : piece <+: c :: rest := ⟨tail, (dropLeading?_eq_some_iff.mp hdrop).symm⟩
          simp [hstart]
      | none => simp [dropLeading?_eq_none_iff.mp hdrop]

theorem contains_iff (hpiece : piece ≠ []) : contains piece text = true ↔ piece <:+: text := by
  rw [contains, Option.isSome_iff_ne_none, ne_eq, cut?_eq_none_iff hpiece, not_not]

/-- A text is cut at the first occurrence of a character. -/
theorem cut?_singleton_eq_some_iff :
    cut? [c] text = some (before, after) ↔ text = before ++ c :: after ∧ c ∉ before := by
  rw [cut?_eq_some_iff (List.cons_ne_nil c []), List.append_assoc, List.singleton_append,
    List.dropLast_singleton, List.append_nil, List.singleton_infix_iff]

theorem cut?_singleton_eq_none_iff : cut? [c] text = none ↔ c ∉ text := by
  rw [cut?_eq_none_iff (List.cons_ne_nil c []), List.singleton_infix_iff]

theorem separate_of_not_mem (hnot : c ∉ text) : separate c text = (text, []) := by
  induction text with
  | nil => rfl
  | cons first rest ih =>
      rw [List.mem_cons, not_or] at hnot
      simp [separate, ih hnot.2, Ne.symm hnot.1]

theorem separate_append_cons (hnot : c ∉ before) (after : List Char) :
    separate c (before ++ c :: after) = (before, fields c after) := by
  induction before with
  | nil => simp [separate, fields]
  | cons first rest ih =>
      rw [List.mem_cons, not_or] at hnot
      simp [separate, ih hnot.2, Ne.symm hnot.1]

/-! ### Fields -/

theorem fields_eq_splitOn (c : Char) (text : List Char) : fields c text = text.splitOn c := by
  induction text with
  | nil => rfl
  | cons first rest ih =>
      rw [List.splitOn_cons_eq_if_modifyHead, ← ih]
      by_cases hfirst : first = c <;> simp [fields, separate, hfirst]

theorem not_mem_of_mem_fields : ∀ part ∈ fields c text, c ∉ part := by
  induction text with
  | nil => simp [fields, separate]
  | cons first rest ih =>
      rw [fields, List.forall_mem_cons] at ih
      by_cases hfirst : first = c
      · simpa [fields, separate, hfirst] using ih
      · simpa [fields, separate, hfirst, Ne.symm hfirst] using ih

theorem one_lt_length_fields (hmem : c ∈ text) : 1 < (fields c text).length := by
  obtain ⟨before, after, rfl, -⟩ := List.eq_append_cons_of_mem hmem
  have hbefore := List.length_pos_iff.mpr (List.splitOn_ne_nil c before)
  have hafter := List.length_pos_iff.mpr (List.splitOn_ne_nil c after)
  rw [fields_eq_splitOn, List.splitOn_append_cons_self, List.length_append]
  omega

/-- A joined text comes apart at the separators between its parts and at those within them. -/
theorem fields_intercalate {texts : List (List Char)} (htexts : texts ≠ []) :
    fields c ([c].intercalate texts) = texts.flatMap (fields c) := by
  induction texts with
  | nil => exact absurd rfl htexts
  | cons text rest ih =>
      cases rest with
      | nil => simp
      | cons next rest =>
          rw [List.intercalate_cons_cons, List.flatMap_cons, ← ih (List.cons_ne_nil next rest),
            List.append_assoc, List.singleton_append, fields_eq_splitOn, fields_eq_splitOn,
            fields_eq_splitOn, List.splitOn_append_cons_self]

/-! ### White space at the ends -/

/-- White space is taken off the ends only. -/
theorem trim_eq_self (hfirst : ∀ c ∈ text.head?, isBlank c = false)
    (hlast : ∀ c ∈ text.getLast?, isBlank c = false) : trim text = text := by
  have hstart {text : List Char} (hfirst : ∀ c ∈ text.head?, isBlank c = false) :
      trimStart text = text := by
    cases text with
    | nil => rfl
    | cons c rest => exact List.dropWhile_cons_of_neg (by simp [hfirst c rfl])
  rw [trim, trimEnd, hstart hfirst, hstart (by rwa [List.head?_reverse]), List.reverse_reverse]

theorem isBlank_of_trim_eq_nil {text : List Char} (htrim : trim text = []) :
    ∀ c ∈ text, isBlank c = true := by
  have hbehind : ∀ c ∈ trimStart text, isBlank c = true := by
    have hreverse : (trimStart text).reverse.dropWhile isBlank = [] := by
      simpa [trim, trimEnd, trimStart] using htrim
    intro c hc
    exact List.dropWhile_eq_nil_iff.mp hreverse c (List.mem_reverse.mpr hc)
  intro c hc
  rw [← List.takeWhile_append_dropWhile (p := isBlank) (l := text), List.mem_append] at hc
  rcases hc with hfront | hrest
  · exact List.mem_takeWhile_imp hfront
  · exact hbehind c hrest

end DotQuery.Text

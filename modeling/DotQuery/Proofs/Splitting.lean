import DotQuery.Proofs.Brackets
import DotQuery.Query.Segment

/-!
# Splitting outside brackets

A text is read as single characters and complete groups up to its end or to a bracket that starts
no group. Splitting cuts it at the separators among the single characters. The pieces are therefore
the only balanced ones that are joined to the text by separators and enclose all others, and they
exist exactly for balanced texts.
-/

namespace DotQuery.Query

/-- The separator only stands behind an open bracket: what is before it is not balanced. -/
def Encloses (separator : Char) (text : List Char) : Prop :=
  ∀ before after, text = before ++ separator :: after → ¬Balanced before

/-- What may stand between two separators. -/
structure IsPiece (separator : Char) (piece : List Char) : Prop where
  balanced : Balanced piece
  encloses : Encloses separator piece

/-- Pieces that the separator joins to the text, and that cannot be split further. -/
structure IsSplitting (separator : Char) (text : List Char) (pieces : List (List Char)) : Prop where
  ne_nil : pieces ≠ []
  join : [separator].intercalate pieces = text
  isPiece : ∀ piece ∈ pieces, IsPiece separator piece

/-- A bracket that starts no complete group. -/
structure IsStuck (text : List Char) : Prop where
  bracket : ∃ c rest, text = c :: rest ∧ isBracket c = true
  noGroup : ∀ group, IsGroup group → ¬group <+: text

theorem IsStuck.startsGroup_eq_false {text : List Char} (hstuck : IsStuck text) :
    startsGroup text = false := by
  cases hstarts : startsGroup text with
  | false => rfl
  | true =>
      obtain ⟨group, hgroup, hprefix⟩ := startsGroup_eq_true_iff.mp hstarts
      exact absurd hprefix (hstuck.noGroup group hgroup)

/-! ### Reading a text -/

/-- Every text is read character by character and group by group until it ends or is stuck. -/
@[elab_as_elim]
theorem readingInduction {motive : List Char → Prop} (nil : motive [])
    (plain : ∀ c rest, isBracket c = false → motive rest → motive (c :: rest))
    (group : ∀ opener closer body rest, closer? opener = some closer → Balanced body →
      motive rest → motive (opener :: (body ++ closer :: rest)))
    (stuck : ∀ text, IsStuck text → motive text) (text : List Char) : motive text := by
  induction hlength : text.length using Nat.strongRecOn generalizing text with
  | ind length ih =>
      subst hlength
      cases text with
      | nil => exact nil
      | cons c rest =>
          by_cases hstarts : startsGroup (c :: rest) = true
          · obtain ⟨_, ⟨opener, closer, body, hopener, hbody, rfl⟩, tail, htail⟩ :=
              startsGroup_eq_true_iff.mp hstarts
            simp only [List.cons_append, List.append_assoc, List.nil_append] at htail
            rw [← htail]
            have hshorter : tail.length < (c :: rest).length := by
              simp only [← htail, List.length_cons, List.length_append]
              omega
            exact group opener closer body tail hopener hbody (ih _ hshorter tail rfl)
          · cases hbracket : isBracket c with
            | false =>
                have hshorter : rest.length < (c :: rest).length := Nat.lt_succ_self _
                exact plain c rest hbracket (ih _ hshorter rest rfl)
            | true =>
                refine stuck _ ⟨⟨c, rest, rfl, hbracket⟩, fun prefixGroup hgroup hprefix => ?_⟩
                exact hstarts (startsGroup_eq_true_iff.mpr ⟨prefixGroup, hgroup, hprefix⟩)

/-! ### What splitting does at each step of the reading -/

/-- The pieces with `front` before the first of them. -/
def Pieces.prepend (front : List Char) (pieces : Pieces) : Pieces :=
  { pieces with first := front ++ pieces.first }

section Steps

variable {separator c opener closer : Char} {body text rest piece : List Char}

theorem ne_of_isBracket (hseparator : isBracket separator = false) (hbracket : isBracket c = true) :
    c ≠ separator := by
  rintro rfl
  rw [hbracket] at hseparator
  cases hseparator

theorem ne_of_opener (hseparator : isBracket separator = false)
    (hopener : closer? opener = some closer) : opener ≠ separator :=
  ne_of_isBracket hseparator (isBracket_opener hopener)

/-- Inside a group every character goes to the first piece. -/
theorem splitWithin_append (hbody : Balanced body) (closer : Char) (outer text : List Char) :
    splitWithin separator (closer :: outer) (body ++ text) =
      (splitWithin separator (closer :: outer) text).prepend body := by
  induction hbody generalizing closer outer text with
  | nil => rfl
  | plain hplain _ ih =>
      rw [List.cons_append, splitWithin, await?_plain hplain, Option.getD_some, ih]
      rfl
  | group hopener _ _ ihBody ihText =>
      rw [group_append, splitWithin, await?_opener hopener, Option.getD_some, ihBody,
        splitWithin, await?_closer hopener, Option.getD_some, ihText]
      simp [Pieces.prepend, Pieces.push]

theorem splitWithin_separator (text : List Char) :
    splitWithin separator [] (separator :: text) = (splitWithin separator [] text).separate := by
  rw [splitWithin, if_pos rfl]

theorem splitWithin_plain (hne : c ≠ separator) (hplain : isBracket c = false)
    (text : List Char) :
    splitWithin separator [] (c :: text) = (splitWithin separator [] text).prepend [c] := by
  rw [splitWithin, if_neg hne, closer?_of_not_isBracket hplain]
  simp [hplain, Pieces.push, Pieces.prepend]

theorem splitWithin_group (hseparator : isBracket separator = false)
    (hopener : closer? opener = some closer) (hbody : Balanced body) (text : List Char) :
    splitWithin separator [] (opener :: (body ++ closer :: text)) =
      (splitWithin separator [] text).prepend (opener :: (body ++ [closer])) := by
  rw [splitWithin, if_neg (ne_of_opener hseparator hopener), hopener]
  dsimp only
  rw [if_pos (closesAll_group hopener hbody text), splitWithin_append hbody, splitWithin,
    await?_closer hopener, Option.getD_some]
  simp [Pieces.push, Pieces.prepend]

theorem splitWithin_stuck (hseparator : isBracket separator = false) (hstuck : IsStuck text) :
    splitWithin separator [] text = ⟨[], [], text⟩ := by
  obtain ⟨c, rest, rfl, hbracket⟩ := hstuck.bracket
  rw [splitWithin, if_neg (ne_of_isBracket hseparator hbracket)]
  cases hopener : closer? c with
  | none => simp [hbracket]
  | some closer =>
      have hopen := hstuck.startsGroup_eq_false
      simp only [startsGroup, hopener] at hopen
      simp [hopen]

end Steps

/-! ### The pieces -/

section Pieces

variable {separator c opener closer : Char} {body text rest piece : List Char}

theorem intercalate_prepend (separator front : List Char) (pieces : Pieces) :
    separator.intercalate (pieces.prepend front).toList =
      front ++ separator.intercalate pieces.toList := by
  obtain ⟨first, others, rest⟩ := pieces
  cases others <;> simp [Pieces.prepend, Pieces.toList, List.intercalate_cons_cons]

theorem intercalate_separate (separator : List Char) (pieces : Pieces) :
    separator.intercalate pieces.separate.toList =
      separator ++ separator.intercalate pieces.toList := by
  rw [Pieces.separate, Pieces.toList, List.intercalate_cons_cons]
  rfl

theorem IsPiece.nil : IsPiece separator [] where
  balanced := .nil
  encloses := by simp [Encloses]

theorem IsPiece.plain (hne : c ≠ separator) (hplain : isBracket c = false)
    (hpiece : IsPiece separator piece) : IsPiece separator (c :: piece) where
  balanced := .plain hplain hpiece.balanced
  encloses := by
    intro before after heq hbefore
    cases before with
    | nil =>
        obtain ⟨rfl, -⟩ := List.cons.inj heq
        exact hne rfl
    | cons c' before =>
        obtain ⟨rfl, htail⟩ := List.cons.inj heq
        exact hpiece.encloses before after htail (hbefore.of_cons_plain hplain)

theorem IsPiece.group (hseparator : isBracket separator = false)
    (hopener : closer? opener = some closer) (hbody : Balanced body)
    (hpiece : IsPiece separator piece) :
    IsPiece separator (opener :: (body ++ closer :: piece)) where
  balanced := .group hopener hbody hpiece.balanced
  encloses := by
    intro before after heq hbefore
    cases before with
    | nil =>
        obtain ⟨rfl, -⟩ := List.cons.inj heq
        exact ne_of_opener hseparator hopener rfl
    | cons c' before =>
        rw [List.cons_append] at heq
        obtain ⟨rfl, htail⟩ := List.cons.inj heq
        obtain ⟨body', rest, rfl, hbody', hrest⟩ := hbefore.exists_of_cons_opener hopener
        rw [List.append_assoc, List.cons_append] at htail
        obtain ⟨rfl, -, hbehind⟩ := Balanced.append_closer_inj hopener hopener hbody hbody' htail
        exact hpiece.encloses rest after hbehind hrest

/-- All pieces joined by the separator, and the rest behind them, are the text again. -/
theorem intercalate_splitWithin (hseparator : isBracket separator = false) (text : List Char) :
    [separator].intercalate (splitWithin separator [] text).toList ++
      (splitWithin separator [] text).rest = text := by
  induction text using readingInduction with
  | nil => rfl
  | stuck text hstuck =>
      rw [splitWithin_stuck hseparator hstuck]
      rfl
  | plain c rest hplain ih =>
      by_cases hne : c = separator
      · subst hne
        rw [splitWithin_separator, intercalate_separate, List.append_assoc]
        exact congrArg (c :: ·) ih
      · rw [splitWithin_plain hne hplain, intercalate_prepend, List.append_assoc]
        exact congrArg (c :: ·) ih
  | group opener closer body rest hopener hbody ih =>
      rw [splitWithin_group hseparator hopener hbody, intercalate_prepend, List.append_assoc]
      simpa [Pieces.prepend] using ih

/-- What is left over is empty or starts with a bracket of no group. -/
theorem rest_splitWithin (hseparator : isBracket separator = false) (text : List Char) :
    (splitWithin separator [] text).rest = [] ∨ IsStuck (splitWithin separator [] text).rest := by
  induction text using readingInduction with
  | nil => exact Or.inl rfl
  | stuck text hstuck =>
      rw [splitWithin_stuck hseparator hstuck]
      exact Or.inr hstuck
  | plain c rest hplain ih =>
      by_cases hne : c = separator
      · subst hne
        rwa [splitWithin_separator]
      · rwa [splitWithin_plain hne hplain]
  | group opener closer body rest hopener hbody ih =>
      rwa [splitWithin_group hseparator hopener hbody]

theorem isPiece_splitWithin (hseparator : isBracket separator = false) (text : List Char) :
    ∀ piece ∈ (splitWithin separator [] text).toList, IsPiece separator piece := by
  induction text using readingInduction with
  | nil => simpa [splitWithin, Pieces.toList] using IsPiece.nil
  | stuck text hstuck =>
      rw [splitWithin_stuck hseparator hstuck]
      simpa [Pieces.toList] using IsPiece.nil
  | plain c rest hplain ih =>
      rw [Pieces.toList, List.forall_mem_cons] at ih
      by_cases hne : c = separator
      · subst hne
        rw [splitWithin_separator, Pieces.separate, Pieces.toList, List.forall_mem_cons,
          List.forall_mem_cons]
        exact ⟨.nil, ih⟩
      · rw [splitWithin_plain hne hplain, Pieces.toList, List.forall_mem_cons]
        exact ⟨ih.1.plain hne hplain, ih.2⟩
  | group opener closer body rest hopener hbody ih =>
      rw [Pieces.toList, List.forall_mem_cons] at ih
      rw [splitWithin_group hseparator hopener hbody, Pieces.toList, List.forall_mem_cons]
      refine ⟨?_, ih.2⟩
      simpa [Pieces.prepend] using ih.1.group hseparator hopener hbody

theorem balanced_intercalate (hseparator : isBracket separator = false)
    {pieces : List (List Char)} (hpieces : ∀ piece ∈ pieces, Balanced piece) :
    Balanced ([separator].intercalate pieces) := by
  induction pieces with
  | nil => exact .nil
  | cons piece others ih =>
      rw [List.forall_mem_cons] at hpieces
      cases others with
      | nil => simpa using hpieces.1
      | cons following others =>
          rw [List.intercalate_cons_cons, List.append_assoc]
          exact hpieces.1.append (.plain hseparator (ih hpieces.2))

/-- Nothing is left over exactly of balanced texts. -/
theorem rest_splitWithin_eq_nil_iff (hseparator : isBracket separator = false) :
    (splitWithin separator [] text).rest = [] ↔ Balanced text := by
  constructor
  · intro hrest
    have hjoin := intercalate_splitWithin hseparator text
    rw [hrest, List.append_nil] at hjoin
    rw [← hjoin]
    exact balanced_intercalate hseparator fun piece hmem =>
      (isPiece_splitWithin hseparator text piece hmem).balanced
  · intro hbalanced
    induction hbalanced with
    | nil => rfl
    | @plain c text hplain _ ih =>
        by_cases hne : c = separator
        · subst hne
          rwa [splitWithin_separator]
        · rwa [splitWithin_plain hne hplain]
    | group hopener hbody _ _ ih =>
        rwa [splitWithin_group hseparator hopener hbody]

/-! ### No other pieces -/

/-- A piece in front of a text is never cut. -/
theorem splitWithin_piece (hseparator : isBracket separator = false)
    (hpiece : IsPiece separator piece) (text : List Char) :
    splitWithin separator [] (piece ++ text) =
      (splitWithin separator [] text).prepend piece := by
  obtain ⟨hbalanced, hencloses⟩ := hpiece
  induction hbalanced with
  | nil => rfl
  | @plain c piece hplain _ ih =>
      have hne : c ≠ separator := by
        rintro rfl
        exact hencloses [] piece rfl .nil
      have htail : Encloses separator piece := by
        rintro before after rfl hbefore
        exact hencloses (c :: before) after rfl (.plain hplain hbefore)
      rw [List.cons_append, splitWithin_plain hne hplain, ih htail]
      rfl
  | @group opener closer body piece hopener hbody _ _ ih =>
      have htail : Encloses separator piece := by
        rintro before after rfl hbefore
        refine hencloses (opener :: (body ++ closer :: before)) after ?_
          (.group hopener hbody hbefore)
        simp
      rw [group_append, splitWithin_group hseparator hopener hbody, ih htail]
      simp [Pieces.prepend]

/-- Joining pieces and splitting the result gives them back. -/
theorem splitWithin_intercalate (hseparator : isBracket separator = false)
    {others : List (List Char)} (hpieces : ∀ p ∈ piece :: others, IsPiece separator p) :
    splitWithin separator [] ([separator].intercalate (piece :: others)) =
      ⟨piece, others, []⟩ := by
  induction others generalizing piece with
  | nil =>
      rw [List.forall_mem_cons] at hpieces
      rw [List.intercalate_singleton, ← List.append_nil piece,
        splitWithin_piece hseparator hpieces.1]
      simp [splitWithin, Pieces.prepend]
  | cons following others ih =>
      rw [List.forall_mem_cons] at hpieces
      rw [List.intercalate_cons_cons, List.append_assoc, List.singleton_append,
        splitWithin_piece hseparator hpieces.1, splitWithin_separator, ih hpieces.2]
      simp [Pieces.separate, Pieces.prepend]

/-! ### Splitting as a whole -/

theorem split_eq_ok_iff (hseparator : isBracket separator = false) {pieces : List (List Char)} :
    split separator text = .ok pieces ↔ IsSplitting separator text pieces := by
  constructor
  · intro hsplit
    have hjoin := intercalate_splitWithin hseparator text
    have hpieces := isPiece_splitWithin hseparator text
    simp only [split] at hsplit
    split at hsplit
    · next hrest =>
        cases hsplit
        rw [List.isEmpty_iff.mp hrest, List.append_nil] at hjoin
        exact ⟨List.cons_ne_nil _ _, hjoin, hpieces⟩
    · cases hsplit
  · rintro ⟨hne, rfl, hpieces⟩
    cases pieces with
    | nil => exact absurd rfl hne
    | cons piece others =>
        rw [split, splitWithin_intercalate hseparator hpieces]
        rfl

theorem exists_split_eq_ok_iff (hseparator : isBracket separator = false) :
    (∃ pieces, split separator text = .ok pieces) ↔ Balanced text := by
  rw [← rest_splitWithin_eq_nil_iff hseparator, ← List.isEmpty_iff]
  simp only [split]
  split <;> simp_all

theorem exists_of_split_eq_error (hseparator : isBracket separator = false)
    (hsplit : split separator text = .error rest) :
    ∃ before, text = before ++ rest ∧ Balanced before ∧ IsStuck rest := by
  have hjoin := intercalate_splitWithin hseparator text
  have hpieces := isPiece_splitWithin hseparator text
  have hstuck := rest_splitWithin hseparator text
  simp only [split] at hsplit
  split at hsplit
  · cases hsplit
  · next hrest =>
      cases hsplit
      refine ⟨_, hjoin.symm, ?_, hstuck.resolve_left fun hnil => hrest (by rw [hnil]; rfl)⟩
      exact balanced_intercalate hseparator fun piece hmem => (hpieces piece hmem).balanced

theorem splitOrFail_eq_ok_iff {text : String} {pieces : List (List Char)} :
    splitOrFail separator text = .ok pieces ↔ split separator text.toList = .ok pieces := by
  unfold splitOrFail
  split <;> simp_all

/-- Queries are split at dots and lists at commas. A text can be split exactly if it is balanced;
its pieces are the only splitting there is; and otherwise the error quotes the rest of the text from
the first bracket on that starts no group, behind what is balanced. -/
theorem splitOrFail_complete (hseparator : isBracket separator = false) (text : String) :
    ((∃ pieces, splitOrFail separator text = .ok pieces) ↔ Balanced text.toList) ∧
    (∀ pieces, splitOrFail separator text = .ok pieces →
      IsSplitting separator text.toList pieces ∧
        ∀ others, IsSplitting separator text.toList others → others = pieces) ∧
    ∀ cause, splitOrFail separator text = .error cause →
      ∃ before rest, text.toList = before ++ rest ∧ cause = .unbalanced (String.ofList rest) ∧
        Balanced before ∧ IsStuck rest := by
  simp only [splitOrFail_eq_ok_iff]
  refine ⟨exists_split_eq_ok_iff hseparator, fun pieces hsplit => ⟨?_, fun others hothers => ?_⟩,
    fun cause hsplit => ?_⟩
  · exact (split_eq_ok_iff hseparator).mp hsplit
  · have hsame := ((split_eq_ok_iff hseparator).mpr hothers).symm.trans hsplit
    exact Except.ok.inj hsame
  · unfold splitOrFail at hsplit
    split at hsplit
    · cases hsplit
    · next rest hrest =>
        cases hsplit
        obtain ⟨before, heq, hbefore, hstuck⟩ := exists_of_split_eq_error hseparator hrest
        exact ⟨before, rest, heq, rfl, hbefore, hstuck⟩

/-- A path with dots in a nested group and an empty last piece, and a list that is left over from
its second bracket on. -/
theorem splitOrFail_complete_nested_and_crossing :
    IsSplitting '.' "a.f(x.[y]).".toList ["a".toList, "f(x.[y])".toList, []] ∧
      ∃ before rest, "a,(b),([)],c".toList = before ++ rest ∧
        Cause.unbalanced "([)],c" = .unbalanced (String.ofList rest) ∧
        Balanced before ∧ IsStuck rest :=
  ⟨((splitOrFail_complete (by decide) "a.f(x.[y]).").2.1 _ rfl).1,
    (splitOrFail_complete (show isBracket ',' = false by decide) "a,(b),([)],c").2.2 _ rfl⟩

end Pieces

end DotQuery.Query

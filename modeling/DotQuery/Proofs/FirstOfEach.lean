import DotQuery.Evaluation.Sequence
import Mathlib.Data.Fintype.Basic
import Mathlib.Data.List.FinRange

/-!
# The first element of each class

Elements that lack a field, or in which it is written alike, make up a class. What the recursion has
seen so far is the texts of the elements it has passed, so an element is kept exactly if none of its
class stands before it.
-/

namespace DotQuery

namespace Sequence

/-- Both elements lack the field, or its values in both are written alike. -/
inductive Equivalent (key : String) (first second : Json) : Prop where
  | absent (hfirst : first.member? key = none) (hsecond : second.member? key = none)
  | alike {value other : Json} (hfirst : first.member? key = some value)
      (hsecond : second.member? key = some other) (htext : value.compact = other.compact)

variable {key : String} {seen : List (Option String)} {items : List Json} {first second : Json}

theorem equivalent_iff :
    Equivalent key first second ↔ fieldText key first = fieldText key second := by
  unfold fieldText
  constructor
  · rintro (⟨hfirst, hsecond⟩ | ⟨hfirst, hsecond, htext⟩)
    · rw [hfirst, hsecond]
    · rw [hfirst, hsecond, Option.map_some, Option.map_some, htext]
  · intro htext
    cases hfirst : first.member? key with
    | none =>
        rw [hfirst, Option.map_none, eq_comm, Option.map_eq_none_iff] at htext
        exact .absent hfirst htext
    | some value =>
        rw [hfirst, Option.map_some, eq_comm, Option.map_eq_some_iff] at htext
        obtain ⟨other, hsecond, hother⟩ := htext
        exact .alike hfirst hsecond hother.symm

/-- The text of the field is not among `seen`, and no element before `place` shares it. -/
def IsFirst (key : String) (seen : List (Option String)) (items : List Json)
    (place : Fin items.length) : Prop :=
  fieldText key items[place] ∉ seen ∧
    ∀ i < place, fieldText key items[i] ≠ fieldText key items[place]

instance (key : String) (seen : List (Option String)) (items : List Json)
    (place : Fin items.length) : Decidable (IsFirst key seen items place) :=
  inferInstanceAs (Decidable (_ ∧ _))

def firstPlaces (key : String) (seen : List (Option String)) (items : List Json) :
    List (Fin items.length) :=
  (List.finRange items.length).filter fun place => IsFirst key seen items place

theorem mem_firstPlaces_iff {place : Fin items.length} :
    place ∈ firstPlaces key seen items ↔ IsFirst key seen items place := by
  simp [firstPlaces]

theorem isFirst_zero_iff {item : Json} {rest : List Json} :
    IsFirst key seen (item :: rest) 0 ↔ fieldText key item ∉ seen := by
  constructor
  · intro hfirst
    exact hfirst.1
  · intro hseen
    exact ⟨hseen, fun i hlt => absurd hlt (Fin.not_lt_zero i)⟩

/-- Behind an element its text counts as seen. -/
theorem isFirst_succ_iff {item : Json} {rest : List Json} {place : Fin rest.length} :
    IsFirst key seen (item :: rest) place.succ ↔
      IsFirst key (fieldText key item :: seen) rest place := by
  have hsplit : IsFirst key seen (item :: rest) place.succ ↔
      fieldText key rest[place] ∉ seen ∧ fieldText key item ≠ fieldText key rest[place] ∧
        ∀ i < place, fieldText key rest[i] ≠ fieldText key rest[place] := by
    refine and_congr_right fun _ => Fin.forall_fin_succ.trans ?_
    simp only [Fin.succ_pos, true_imp_iff, Fin.succ_lt_succ_iff]
    rfl
  rw [hsplit, IsFirst, List.mem_cons, not_or, and_left_comm, ← and_assoc, ne_comm]

theorem isFirst_cons_of_mem {text : Option String} {place : Fin items.length} (hmem : text ∈ seen) :
    IsFirst key (text :: seen) items place ↔ IsFirst key seen items place := by
  unfold IsFirst
  rw [List.mem_cons, not_or, and_assoc, and_iff_right_iff_imp]
  rintro ⟨hseen, -⟩ rfl
  exact hseen hmem

theorem firstPlaces_cons (item : Json) (rest : List Json) :
    firstPlaces key seen (item :: rest) =
      if fieldText key item ∈ seen then
        (firstPlaces key (fieldText key item :: seen) rest).map Fin.succ
      else 0 :: (firstPlaces key (fieldText key item :: seen) rest).map Fin.succ := by
  have hrest : ((List.finRange rest.length).map Fin.succ).filter
        (fun place => IsFirst key seen (item :: rest) place) =
      (firstPlaces key (fieldText key item :: seen) rest).map Fin.succ := by
    rw [List.filter_map]
    congr 1
    apply List.filter_congr
    intro place _
    exact decide_eq_decide.mpr isFirst_succ_iff
  have hzero : decide (IsFirst key seen (item :: rest) 0) = true ↔ fieldText key item ∉ seen := by
    rw [decide_eq_true_eq, isFirst_zero_iff]
  calc firstPlaces key seen (item :: rest)
      = (0 :: (List.finRange rest.length).map Fin.succ).filter
          fun place => IsFirst key seen (item :: rest) place :=
        congrArg _ List.finRange_succ
    _ = _ := by rw [List.filter_cons, hrest, if_congr hzero rfl rfl, ite_not]

theorem uniqueAfter_eq_firstPlaces (key : String) (seen : List (Option String))
    (items : List Json) :
    uniqueAfter key seen items = (firstPlaces key seen items).map items.get := by
  induction items generalizing seen with
  | nil => rfl
  | cons item rest ih =>
      rw [uniqueAfter, firstPlaces_cons]
      by_cases hmem : fieldText key item ∈ seen
      · have hplaces : firstPlaces key (fieldText key item :: seen) rest =
            firstPlaces key seen rest :=
          List.filter_congr fun place _ => decide_eq_decide.mpr (isFirst_cons_of_mem hmem)
        rw [if_pos (List.contains_iff_mem.mpr hmem), if_pos hmem, hplaces, ih, List.map_map]
        rfl
      · rw [if_neg (by simpa using hmem), if_neg hmem, ih, List.map_cons, List.map_map]
        rfl

/-- Of two kept elements the second is not behind one of its own class. -/
theorem pairwise_firstPlaces (key : String) (items : List Json) :
    (firstPlaces key [] items).Pairwise fun place later =>
      place < later ∧ ¬ Equivalent key items[place] items[later] := by
  have hordered : (firstPlaces key [] items).Pairwise (· < ·) :=
    (List.pairwise_lt_finRange items.length).filter _
  refine hordered.imp_of_mem fun _ hlater hlt => ⟨hlt, ?_⟩
  rw [equivalent_iff]
  exact (mem_firstPlaces_iff.mp hlater).2 _ hlt

/-- Going back from an element to the first of its class. -/
theorem exists_firstPlace (key : String) (items : List Json) (i : Fin items.length) :
    ∃ place ∈ firstPlaces key [] items, place ≤ i ∧ Equivalent key items[place] items[i] := by
  induction i using WellFoundedLT.induction with
  | ind i ih =>
      by_cases hfirst : ∀ earlier < i, fieldText key items[earlier] ≠ fieldText key items[i]
      · exact ⟨i, mem_firstPlaces_iff.mpr ⟨List.not_mem_nil, hfirst⟩, le_refl i,
          equivalent_iff.mpr rfl⟩
      · push Not at hfirst
        obtain ⟨earlier, hlt, htext⟩ := hfirst
        obtain ⟨place, hmem, hle, hequivalent⟩ := ih earlier hlt
        refine ⟨place, hmem, hle.trans hlt.le, ?_⟩
        rw [equivalent_iff] at hequivalent ⊢
        exact hequivalent.trans htext

theorem pairwise_uniqueBy (key : String) (items : List Json) :
    (uniqueBy key items).Pairwise fun first second => ¬ Equivalent key first second := by
  rw [uniqueBy, uniqueAfter_eq_firstPlaces, List.pairwise_map]
  exact (pairwise_firstPlaces key items).imp fun hpair => hpair.2

theorem uniqueAfter_eq_self (hseen : ∀ item ∈ items, fieldText key item ∉ seen)
    (hapart : items.Pairwise fun first second => fieldText key first ≠ fieldText key second) :
    uniqueAfter key seen items = items := by
  induction items generalizing seen with
  | nil => rfl
  | cons item rest ih =>
      rw [List.forall_mem_cons] at hseen
      rw [List.pairwise_cons] at hapart
      rw [uniqueAfter, if_neg (by simpa using hseen.1)]
      congr 1
      apply ih _ hapart.2
      intro other hmem
      rw [List.mem_cons, not_or]
      exact ⟨(hapart.1 other hmem).symm, hseen.2 other hmem⟩

/-- What is kept of a sequence are the elements at some of its places, in order: no two of them are
equivalent, every element of the sequence has an equivalent one kept at or before its own place, and
before a kept element none is equivalent to it. Nothing is left to be dropped a second time. -/
theorem uniqueBy_first_of_each (key : String) (items : List Json) :
    (∃ places : List (Fin items.length), places.Pairwise (· < ·) ∧
      uniqueBy key items = places.map items.get ∧
      (∀ i, ∃ place ∈ places, place ≤ i ∧ Equivalent key items[place] items[i]) ∧
      ∀ place ∈ places, ∀ i < place, ¬ Equivalent key items[i] items[place]) ∧
    (uniqueBy key items).Pairwise (fun first second => ¬ Equivalent key first second) ∧
    uniqueBy key (uniqueBy key items) = uniqueBy key items := by
  have hordered := (pairwise_firstPlaces key items).imp fun hpair => hpair.1
  have hapart := pairwise_uniqueBy key items
  refine ⟨⟨firstPlaces key [] items, hordered, uniqueAfter_eq_firstPlaces key [] items,
    exists_firstPlace key items, ?_⟩, hapart, ?_⟩
  · intro place hmem i hlt
    rw [equivalent_iff]
    exact (mem_firstPlaces_iff.mp hmem).2 i hlt
  · apply uniqueAfter_eq_self
    · exact fun _ _ => List.not_mem_nil
    · exact hapart.imp fun hpair htext => hpair (equivalent_iff.mpr htext)

end Sequence

end DotQuery

import DotQuery.Proofs.Extremes
import DotQuery.Proofs.FirstOfEach
import Mathlib.Data.List.Perm.Basic

/-!
# Equal values that are kept apart

Elements are told apart by what their fields are written as, and what is written keeps the order of
members and the sign of a zero. So two elements whose fields are equal values can both be kept, but
only if the fields differ in these respects somewhere.
-/

namespace DotQuery

namespace Json

/-- The same value: numbers of one kind are compared by size, and objects by their members, in
whatever order these stand. -/
inductive Equal : Json → Json → Prop where
  | null : Equal .null .null
  | bool (value : Bool) : Equal (.bool value) (.bool value)
  | int {n m : Int} {hn : IsWord n} {hm : IsWord m} (heq : n = m) :
      Equal (.num (.int n hn)) (.num (.int m hm))
  | float {x y : Finite64} (hscaled : x.scaled = y.scaled) :
      Equal (.num (.float x)) (.num (.float y))
  | str (text : String) : Equal (.str text) (.str text)
  | arr {items others : List Json} (hlength : items.length = others.length)
      (hitems : ∀ i (hi : i < items.length) (ho : i < others.length), Equal items[i] others[i]) :
      Equal (.arr items) (.arr others)
  | obj {members others : List (String × Json)}
      (hkeys : (members.map Prod.fst).Perm (others.map Prod.fst))
      (hvalues : ∀ key value other, (key, value) ∈ members → (key, other) ∈ others →
        Equal value other) :
      Equal (.obj members) (.obj others)

/-- Somewhere the members of an object stand in another order, or a zero has the other sign. -/
inductive Rearranged : Json → Json → Prop where
  | zero {s t : Bool} (hsign : s ≠ t) :
      Rearranged (.num (.float (.zero s))) (.num (.float (.zero t)))
  | order {members others : List (String × Json)}
      (hkeys : (members.map Prod.fst).Perm (others.map Prod.fst))
      (horder : members.map Prod.fst ≠ others.map Prod.fst) :
      Rearranged (.obj members) (.obj others)
  | item {items others : List Json} {i : Nat} (hi : i < items.length) (ho : i < others.length)
      (hitem : Rearranged items[i] others[i]) : Rearranged (.arr items) (.arr others)
  | member {members others : List (String × Json)} {key : String} {value other : Json}
      (hvalue : (key, value) ∈ members) (hother : (key, other) ∈ others)
      (hmember : Rearranged value other) : Rearranged (.obj members) (.obj others)

variable {value other : Json}

theorem exists_getElem_ne {α : Type} {items others : List α}
    (hlength : items.length = others.length) (hne : items ≠ others) :
    ∃ i, ∃ (hi : i < items.length) (ho : i < others.length), items[i] ≠ others[i] := by
  by_contra hsame
  push Not at hsame
  exact hne (List.ext_getElem hlength hsame)

/-- Equal values that are not the same have been rearranged: the first difference between two
objects is in the order of their keys, or else in the value of one key. -/
theorem Equal.rearranged (hequal : value.Equal other) (hne : value ≠ other) :
    value.Rearranged other := by
  induction hequal with
  | null | bool _ | str _ => exact absurd rfl hne
  | int heq =>
      subst heq
      exact absurd rfl hne
  | @float x y hscaled =>
      have hzero : x.scaled = 0 := by
        by_contra hscaledNe
        exact hne (congrArg (Json.num ∘ .float) (Binary64.finite_eq_of_scaled_eq hscaled hscaledNe))
      have hx := Binary64.finite_eq_zero_of_scaled_eq_zero hzero
      have hy := Binary64.finite_eq_zero_of_scaled_eq_zero (hscaled ▸ hzero)
      rw [hx, hy]
      apply Rearranged.zero
      intro hsign
      apply hne
      rw [hx, hy, hsign]
  | arr hlength hitems ih =>
      obtain ⟨i, hi, ho, hitem⟩ :=
        exists_getElem_ne hlength (fun heq => hne (congrArg Json.arr heq))
      exact .item hi ho (ih i hi ho hitem)
  | @obj members others hkeys hvalues ih =>
      by_cases horder : members.map Prod.fst = others.map Prod.fst
      · have hlength : members.length = others.length := by
          simpa using congrArg List.length horder
        obtain ⟨i, hi, ho, hmember⟩ :=
          exists_getElem_ne hlength (fun heq => hne (congrArg Json.obj heq))
        have hkey : members[i].1 = others[i].1 := by
          have hi' : i < (members.map Prod.fst).length := by rwa [List.length_map]
          have hkeyAt := List.getElem_of_eq horder hi'
          rwa [List.getElem_map, List.getElem_map] at hkeyAt
        have hvalue : (members[i].1, members[i].2) ∈ members := List.getElem_mem hi
        have hother : (members[i].1, others[i].2) ∈ others := by
          rw [hkey]
          exact List.getElem_mem ho
        exact .member hvalue hother
          (ih _ _ _ hvalue hother fun heq => hmember (Prod.ext hkey heq))
      · exact .order hkeys horder

end Json

namespace Sequence

open Json

/-- Two kept elements with equal fields: the fields are rearranged somewhere. -/
theorem equal_fields_rearranged (key : String) (items : List Json) :
    (uniqueBy key items).Pairwise fun first second =>
      ∀ value other, first.member? key = some value → second.member? key = some other →
        value.Equal other → value.Rearranged other := by
  refine (pairwise_uniqueBy key items).imp fun hpair value other hfirst hsecond hequal =>
    hequal.rearranged ?_
  rintro rfl
  exact hpair (.alike hfirst hsecond rfl)

/-- Two objects with the same members, and zeros of either sign, are all kept. -/
theorem uniqueBy_keeps_reordered :
    let field (value : Json) : Json := .obj [("k", value)]
    let ordered : Json := .obj [("a", .ofInt 1), ("b", .ofInt 2)]
    let reordered : Json := .obj [("b", .ofInt 2), ("a", .ofInt 1)]
    let zero (negative : Bool) : Json := .num (.float (.zero negative))
    uniqueBy "k" [field ordered, field reordered, field (zero false), field (zero true)] =
        [field ordered, field reordered, field (zero false), field (zero true)] ∧
      ordered.Equal reordered ∧ (zero false).Equal (zero true) := by
  intro field ordered reordered zero
  refine ⟨?_, .obj (.swap _ _ _) ?_, .float rfl⟩
  · apply uniqueAfter_eq_self
    · exact fun _ _ => List.not_mem_nil
    · apply List.pairwise_map.mp
      decide +kernel
  · intro key value other hvalue hother
    simp only [List.mem_cons, List.not_mem_nil, or_false, Prod.mk.injEq] at hvalue hother
    rcases hvalue with ⟨rfl, rfl⟩ | ⟨rfl, rfl⟩ <;> rcases hother with ⟨hkey, rfl⟩ | ⟨hkey, rfl⟩ <;>
      first | exact .int rfl | exact absurd hkey (by decide)

end Sequence

end DotQuery

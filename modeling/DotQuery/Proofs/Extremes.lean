import DotQuery.Decimal.Shortest
import DotQuery.Evaluation.Statistics
import Mathlib.Data.List.Perm.Basic
import Mathlib.Order.Compare

/-!
# Extremes of numbers

Numbers other than NaN stand in a linear order in which both zeros have one place. The extremes of
a list stand at the extremes of its places, so they do not depend on the order of the list, but for
the sign of a zero. That sign is lost in JSON, also behind a difference of two extremes.
-/

namespace DotQuery

namespace Binary64

variable {a b a' b' : Binary64} {x y : Finite64}

/-! ### Places -/

/-- Where a number stands in the order: a finite one at its count of units, an infinite one beyond
all of them. NaN has no place of its own. -/
def place : Binary64 → Int
  | .nan => 0
  | .infinite negative => if negative then -limit else limit
  | .finite x => x.scaled

theorem scaled_bounds (x : Finite64) : -(limit : Int) < x.scaled ∧ x.scaled < limit := by
  have hunits := x.representable.2
  unfold Finite64.scaled
  split <;> omega

theorem compare?_eq_compare_place (ha : a.isNaN = false) (hb : b.isNaN = false) :
    compare? a b = some (compare a.place b.place) := by
  have hlimit : (0 : Int) < limit := Int.natCast_pos.mpr limit_pos
  cases a with
  | nan => cases ha
  | infinite s =>
      cases b with
      | nan => cases hb
      | infinite t =>
          cases s <;> cases t <;>
            simp only [compare?, place, Bool.false_eq_true, reduceCtorEq, ↓reduceIte,
              Option.some.injEq]
          · exact (Int.compare_eq_eq.mpr rfl).symm
          · exact (Int.compare_eq_gt.mpr (by omega)).symm
          · exact (Int.compare_eq_lt.mpr (by omega)).symm
          · exact (Int.compare_eq_eq.mpr rfl).symm
      | finite y =>
          obtain ⟨hbelow, habove⟩ := scaled_bounds y
          cases s <;> simp only [compare?, place, Bool.false_eq_true, ↓reduceIte]
          · rw [Int.compare_eq_gt.mpr habove]
          · rw [Int.compare_eq_lt.mpr hbelow]
  | finite x =>
      obtain ⟨hbelow, habove⟩ := scaled_bounds x
      cases b with
      | nan => cases hb
      | infinite t =>
          cases t <;> simp only [compare?, place, Bool.false_eq_true, ↓reduceIte]
          · rw [Int.compare_eq_lt.mpr habove]
          · rw [Int.compare_eq_gt.mpr hbelow]
      | finite y => rfl

theorem greatest_eq_ite (ha : a.isNaN = false) (hb : b.isNaN = false) :
    greatest a b = if a.place < b.place then b else a := by
  simp only [greatest, ha, compare?_eq_compare_place hb ha, Bool.false_eq_true, ↓reduceIte,
    beq_iff_eq, Option.some.injEq, Int.compare_eq_gt]

theorem least_eq_ite (ha : a.isNaN = false) (hb : b.isNaN = false) :
    least a b = if b.place < a.place then b else a := by
  simp only [least, ha, compare?_eq_compare_place hb ha, Bool.false_eq_true, ↓reduceIte,
    beq_iff_eq, Option.some.injEq, Int.compare_eq_lt]

theorem place_greatest (ha : a.isNaN = false) (hb : b.isNaN = false) :
    (greatest a b).isNaN = false ∧ (greatest a b).place = max a.place b.place := by
  rw [greatest_eq_ite ha hb]
  split
  · exact ⟨hb, by omega⟩
  · exact ⟨ha, by omega⟩

theorem place_least (ha : a.isNaN = false) (hb : b.isNaN = false) :
    (least a b).isNaN = false ∧ (least a b).place = min a.place b.place := by
  rw [least_eq_ite ha hb]
  split
  · exact ⟨hb, by omega⟩
  · exact ⟨ha, by omega⟩

/-- A choice between two numbers that goes by their places also goes by them along a list. -/
theorem place_foldl {choose : Binary64 → Binary64 → Binary64} {join : Int → Int → Int}
    (hchoose : ∀ {a b : Binary64}, a.isNaN = false → b.isNaN = false →
      (choose a b).isNaN = false ∧ (choose a b).place = join a.place b.place)
    {values : List Binary64} (hvalues : ∀ value ∈ values, value.isNaN = false)
    (ha : a.isNaN = false) :
    (values.foldl choose a).isNaN = false ∧
      (values.foldl choose a).place = (values.map place).foldl join a.place := by
  induction values generalizing a with
  | nil => exact ⟨ha, rfl⟩
  | cons value rest ih =>
      rw [List.forall_mem_cons] at hvalues
      obtain ⟨hchosen, hplace⟩ := hchoose ha hvalues.1
      rw [List.foldl_cons, List.map_cons, List.foldl_cons, ← hplace]
      exact ih hvalues.2 hchosen

/-- A choice between two numbers along a list ends at one of them. -/
theorem foldl_mem {choose : Binary64 → Binary64 → Binary64}
    (hchoose : ∀ a b, choose a b = a ∨ choose a b = b) (values : List Binary64) (a : Binary64) :
    values.foldl choose a ∈ a :: values := by
  induction values generalizing a with
  | nil => exact List.mem_singleton_self a
  | cons value rest ih =>
      rw [List.foldl_cons]
      rcases List.mem_cons.mp (ih (choose a value)) with heq | hmem
      · rw [heq]
        rcases hchoose a value with hleft | hright
        · rw [hleft]
          exact List.mem_cons_self
        · rw [hright]
          exact List.mem_cons_of_mem _ List.mem_cons_self
      · exact List.mem_cons_of_mem _ (List.mem_cons_of_mem _ hmem)

/-! ### Numbers but for the sign of a zero -/

/-- The same number, or both of them zeros. -/
inductive Alike : Binary64 → Binary64 → Prop where
  | same (a : Binary64) : Alike a a
  | zeros (s t : Bool) : Alike (.finite (.zero s)) (.finite (.zero t))

theorem finite_eq_zero_of_scaled_eq_zero (hx : x.scaled = 0) : x = .zero x.negative := by
  obtain ⟨negative, units, hunits⟩ := x
  have hzero : units = 0 := by
    unfold Finite64.scaled at hx
    split at hx <;> simp_all
  subst hzero
  rfl

theorem finite_eq_of_scaled_eq (hscaled : x.scaled = y.scaled) (hx : x.scaled ≠ 0) : x = y := by
  obtain ⟨s, m, hm⟩ := x
  obtain ⟨t, n, hn⟩ := y
  have hparts : s = t ∧ m = n := by
    cases s <;> cases t <;> simp [Finite64.scaled] at hscaled hx ⊢ <;> omega
  obtain ⟨rfl, rfl⟩ := hparts
  rfl

/-- Two numbers in one place are the same but for the sign of a zero. -/
theorem alike_of_place_eq (ha : a.isNaN = false) (hb : b.isNaN = false)
    (hplace : a.place = b.place) : Alike a b := by
  have hlimit : (0 : Int) < limit := Int.natCast_pos.mpr limit_pos
  cases a with
  | nan => cases ha
  | infinite s =>
      cases b with
      | nan => cases hb
      | infinite t =>
          have hsign : s = t := by
            cases s <;> cases t <;>
              simp only [place, Bool.false_eq_true, ↓reduceIte] at hplace ⊢ <;> omega
          rw [hsign]
          exact .same _
      | finite y =>
          have hy := scaled_bounds y
          cases s <;> simp only [place, Bool.false_eq_true, ↓reduceIte] at hplace <;> omega
  | finite x =>
      cases b with
      | nan => cases hb
      | infinite t =>
          have hx := scaled_bounds x
          cases t <;> simp only [place, Bool.false_eq_true, ↓reduceIte] at hplace <;> omega
      | finite y =>
          by_cases hx : x.scaled = 0
          · have hy : y.scaled = 0 := hplace.symm.trans hx
            rw [finite_eq_zero_of_scaled_eq_zero hx, finite_eq_zero_of_scaled_eq_zero hy]
            exact .zeros _ _
          · rw [finite_eq_of_scaled_eq hplace hx]
            exact .same _

theorem alike_ofScaled (s t : Bool) (scaled : Int) :
    Alike (ofScaled s scaled) (ofScaled t scaled) := by
  unfold ofScaled
  split
  · exact .zeros s t
  · exact .same _

theorem scaled_zero (s : Bool) : (Finite64.zero s).scaled = 0 := by
  cases s <;> rfl

/-- The sign of a zero does not matter for a difference, but for the sign of a zero. -/
theorem Alike.subtract (hleft : Alike a a') (hright : Alike b b') :
    Alike (a.subtract b) (a'.subtract b') := by
  cases hleft with
  | same a =>
      cases hright with
      | same b => exact .same _
      | zeros s t =>
          cases a with
          | nan | infinite _ => exact .same _
          | finite x =>
              -- a finite number less a zero keeps its scaled value, whichever zero it is
              have hs : (Finite64.zero s).negate = .zero !s := rfl
              have ht : (Finite64.zero t).negate = .zero !t := rfl
              simp only [Binary64.subtract, negate, add, hs, ht, scaled_zero]
              exact alike_ofScaled _ _ _
  | zeros s t =>
      have hzeros (y y' : Finite64) (hy : y.scaled = y'.scaled) :
          Alike (add (.finite (.zero s)) (.finite y)) (add (.finite (.zero t)) (.finite y')) := by
        simp only [add, scaled_zero, hy]
        exact alike_ofScaled _ _ _
      cases hright with
      | same b =>
          cases b with
          | nan | infinite _ => exact .same _
          | finite y => exact hzeros _ _ rfl
      | zeros s' t' => exact hzeros _ _ ((scaled_zero _).trans (scaled_zero _).symm)

theorem ofBinary64_zero (s : Bool) : Json.ofBinary64 (.finite (.zero s)) = .ofInt 0 := by
  have hintegral : (Finite64.zero s).isIntegral = true := by
    rw [Finite64.isIntegral, beq_iff_eq]
    exact Nat.zero_mod _
  have htruncate : (Finite64.zero s).truncate = 0 := by
    have hmagnitude : ((0 : Nat) : Int) / one = 0 := Int.zero_ediv _
    cases s
    · exact hmagnitude
    · exact congrArg (- ·) hmagnitude
  have hsafe : (Finite64.zero s).units ≤ Json.maxSafeInteger * one := Nat.zero_le _
  simp only [Json.ofBinary64, hintegral, hsafe, htruncate, Bool.true_and, decide_true, ↓reduceIte]

/-- In JSON there is one zero. -/
theorem Alike.ofBinary64_eq (halike : Alike a b) : Json.ofBinary64 a = .ofBinary64 b := by
  cases halike with
  | same => rfl
  | zeros s t => rw [ofBinary64_zero, ofBinary64_zero]

/-! ### Rounding gives no NaN -/

theorem isNaN_ofRatio (negative : Bool) (num den : Nat) :
    (ofRatio negative num den).isNaN = false := by
  unfold ofRatio
  split <;> rfl

theorem isNaN_ofScaled (zeroNegative : Bool) (scaled : Int) :
    (ofScaled zeroNegative scaled).isNaN = false := by
  unfold ofScaled
  split
  · rfl
  · exact isNaN_ofRatio _ _ _

theorem exists_half_eq : ∃ x, half = .finite x := by
  have hhalf : nearest one 2 < limit := by decide +kernel
  rw [half, ofRatio, dif_pos hhalf]
  exact ⟨_, rfl⟩

theorem isNaN_add_half (ha : a.isNaN = false) : (a.add half).isNaN = false := by
  obtain ⟨x, hx⟩ := exists_half_eq
  rw [hx]
  cases a with
  | nan => cases ha
  | infinite _ => rfl
  | finite _ => exact isNaN_ofScaled _ _

theorem isNaN_floor (ha : a.isNaN = false) : a.floor.isNaN = false := by
  cases a with
  | nan => cases ha
  | infinite _ => rfl
  | finite _ => exact isNaN_ofScaled _ _

theorem isNaN_toBinary64 (d : Decimal) : d.toBinary64.isNaN = false := by
  unfold Decimal.toBinary64
  split
  · rfl
  split
  · rfl
  split
  · rfl
  split <;> exact isNaN_ofRatio _ _ _

theorem isNaN_shiftDecimal (places : Int) (ha : a.isNaN = false) :
    (a.shiftDecimal places).isNaN = false := by
  cases a with
  | nan => cases ha
  | infinite _ => rfl
  | finite _ => exact isNaN_toBinary64 _

theorem isNaN_roundToHundredths (ha : a.isNaN = false) : a.roundToHundredths.isNaN = false :=
  isNaN_shiftDecimal _ (isNaN_floor (isNaN_add_half (isNaN_shiftDecimal _ ha)))

theorem isNaN_number (n : Number) : n.toBinary64.isNaN = false := by
  cases n with
  | int value _ => exact isNaN_ofScaled _ _
  | float _ => rfl

end Binary64

/-! ### Extremes of a list -/

namespace Statistics

open Binary64

variable {values others : List Binary64} {found other : Option Binary64}

theorem place_greatest? (hvalues : ∀ value ∈ values, value.isNaN = false) :
    (∀ value ∈ greatest? values, value.isNaN = false) ∧
      (greatest? values).map place = (values.map place).max? := by
  cases values with
  | nil => exact ⟨by simp [greatest?], rfl⟩
  | cons value rest =>
      rw [List.forall_mem_cons] at hvalues
      obtain ⟨hfound, hplace⟩ := place_foldl place_greatest hvalues.2 hvalues.1
      rw [List.map_cons, List.max?_cons', ← hplace]
      exact ⟨by simpa [greatest?] using hfound, rfl⟩

theorem place_least? (hvalues : ∀ value ∈ values, value.isNaN = false) :
    (∀ value ∈ least? values, value.isNaN = false) ∧
      (least? values).map place = (values.map place).min? := by
  cases values with
  | nil => exact ⟨by simp [least?], rfl⟩
  | cons value rest =>
      rw [List.forall_mem_cons] at hvalues
      obtain ⟨hfound, hplace⟩ := place_foldl place_least hvalues.2 hvalues.1
      rw [List.map_cons, List.min?_cons', ← hplace]
      exact ⟨by simpa [least?] using hfound, rfl⟩

theorem mem_of_least?_eq_some {least : Binary64} (hleast : least? values = some least) :
    least ∈ values := by
  cases values with
  | nil => cases hleast
  | cons value rest =>
      cases hleast
      apply foldl_mem
      intro a b
      unfold Binary64.least
      split
      · exact Or.inr rfl
      · split
        · exact Or.inr rfl
        · exact Or.inl rfl

theorem mem_of_greatest?_eq_some {greatest : Binary64}
    (hgreatest : greatest? values = some greatest) : greatest ∈ values := by
  cases values with
  | nil => cases hgreatest
  | cons value rest =>
      cases hgreatest
      apply foldl_mem
      intro a b
      unfold Binary64.greatest
      split
      · exact Or.inr rfl
      · split
        · exact Or.inr rfl
        · exact Or.inl rfl

theorem rel_alike (hfound : ∀ value ∈ found, value.isNaN = false)
    (hother : ∀ value ∈ other, value.isNaN = false)
    (hplace : found.map place = other.map place) : Option.Rel Alike found other := by
  cases found with
  | none =>
      cases other with
      | none => exact .none
      | some b => cases hplace
  | some a =>
      cases other with
      | none => cases hplace
      | some b =>
          have ha := hfound a rfl
          have hb := hother b rfl
          exact .some (alike_of_place_eq ha hb (Option.some.inj hplace))

theorem max?_eq_of_perm {places shuffled : List Int} (hperm : places.Perm shuffled) :
    places.max? = shuffled.max? := by
  apply Option.ext
  intro place
  simp only [List.max?_eq_some_iff, hperm.mem_iff]

theorem min?_eq_of_perm {places shuffled : List Int} (hperm : places.Perm shuffled) :
    places.min? = shuffled.min? := by
  apply Option.ext
  intro place
  simp only [List.min?_eq_some_iff, hperm.mem_iff]

section Shuffled

variable (hvalues : ∀ value ∈ values, value.isNaN = false) (hperm : values.Perm others)
include hvalues hperm

theorem isNaN_of_perm : ∀ value ∈ others, value.isNaN = false :=
  fun value hmem => hvalues value (hperm.mem_iff.mpr hmem)

theorem rel_alike_greatest? : Option.Rel Alike (greatest? values) (greatest? others) := by
  obtain ⟨hfound, hplace⟩ := place_greatest? hvalues
  obtain ⟨hother, hplace'⟩ := place_greatest? (isNaN_of_perm hvalues hperm)
  refine rel_alike hfound hother ?_
  rw [hplace, hplace', max?_eq_of_perm (hperm.map place)]

theorem rel_alike_least? : Option.Rel Alike (least? values) (least? others) := by
  obtain ⟨hfound, hplace⟩ := place_least? hvalues
  obtain ⟨hother, hplace'⟩ := place_least? (isNaN_of_perm hvalues hperm)
  refine rel_alike hfound hother ?_
  rw [hplace, hplace', min?_eq_of_perm (hperm.map place)]

theorem rel_alike_spread? : Option.Rel Alike (spread? values) (spread? others) := by
  have hgreatest := rel_alike_greatest? hvalues hperm
  have hleast := rel_alike_least? hvalues hperm
  unfold spread?
  generalize greatest? values = high, greatest? others = high' at hgreatest ⊢
  generalize least? values = low, least? others = low' at hleast ⊢
  cases hgreatest with
  | none => exact .none
  | some hhigh =>
      cases hleast with
      | none => exact .none
      | some hlow => exact .some (hhigh.subtract hlow)

end Shuffled

end Statistics

end DotQuery

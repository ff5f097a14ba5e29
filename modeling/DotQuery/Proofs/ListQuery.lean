import DotQuery.Proofs.Extremes
import DotQuery.Proofs.Quoting
import DotQuery.Proofs.Rendering
import Mathlib.Data.List.Perm.Basic
import Mathlib.Data.List.TakeWhile

/-!
# Lists of queries

The list of a combinator is read as its items between commas, blank ones passed over, and evaluated
item by item. So it has a value if each item has a number, it fails as the first item does that has
none, and what its numbers come to does not depend on their order.
-/

namespace DotQuery

open Query

/-! ### Items -/

namespace Query

variable {items : List String} {item text : String}

/-- What is read of an item: its text without the white space at its ends, nothing of a blank
one. -/
def itemText? (item : String) : Option String :=
  if Text.trimmed item = "" then none else some (Text.trimmed item)

theorem itemText?_eq_some_iff :
    itemText? item = some text ↔ Text.trimmed item ≠ "" ∧ Text.trimmed item = text := by
  unfold itemText?
  split <;> simp_all

theorem itemText?_eq_none_iff : itemText? item = none ↔ Text.trimmed item = "" := by
  unfold itemText?
  split <;> simp_all

theorem forall_mem_filterMap_itemText? {p : String → Prop} :
    (∀ text ∈ items.filterMap itemText?, p text) ↔
      ∀ item ∈ items, Text.trimmed item ≠ "" → p (Text.trimmed item) := by
  simp only [List.mem_filterMap, itemText?_eq_some_iff]
  constructor
  · intro hall item hmem hne
    exact hall _ ⟨item, hmem, hne, rfl⟩
  · rintro hall _ ⟨item, hmem, hne, rfl⟩
    exact hall item hmem hne

theorem plain_of_isBlank {c : Char} (hblank : Text.isBlank c = true) :
    c ≠ ',' ∧ isBracket c = false := by
  constructor
  · rintro rfl
    exact absurd hblank (by decide)
  · cases hbracket : isBracket c with
    | false => rfl
    | true =>
        simp only [isBracket, Bool.or_eq_true, beq_iff_eq] at hbracket
        rcases hbracket with ((rfl | rfl) | rfl) | rfl <;> exact absurd hblank (by decide)

theorem isPiece_of_trimmed_eq_empty (hblank : Text.trimmed item = "") :
    IsPiece ',' item.toList := by
  have htrim : Text.trim item.toList = [] := by
    simpa [Text.trimmed, ← String.toList_inj] using hblank
  have hplain : ∀ c ∈ item.toList, c ≠ ',' ∧ isBracket c = false := fun c hc =>
    plain_of_isBlank (Text.isBlank_of_trim_eq_nil htrim c hc)
  simpa using IsPiece.nil.append_plain hplain

theorem filterMap_itemText?_eq :
    items.filterMap itemText? =
      (((items.map String.toList).map Text.trim).filter fun text => !text.isEmpty).map
        String.ofList := by
  induction items with
  | nil => rfl
  | cons item rest ih =>
      have hempty : Text.trimmed item = "" ↔ Text.trim item.toList = [] := by
        rw [Text.trimmed, ← String.toList_inj, String.toList_ofList, String.toList_empty]
      rw [List.filterMap_cons, ih, List.map_cons, List.map_cons]
      by_cases hblank : Text.trim item.toList = []
      · have hnone := itemText?_eq_none_iff.mpr (hempty.mpr hblank)
        rw [hnone, List.filter_cons_of_neg (by simp [hblank])]
      · have htext := itemText?_eq_some_iff.mpr ⟨mt hempty.mp hblank, rfl⟩
        rw [htext, List.filter_cons_of_pos (by simp [hblank]), List.map_cons]
        rfl

/-- A list is read as the items that it is joined from. -/
theorem parseItems_intercalate (hitems : ∀ item ∈ items, IsPiece ',' item.toList) :
    parseItems (",".intercalate items) = .ok (items.filterMap itemText?) := by
  cases items with
  | nil => rfl
  | cons item rest =>
      have hsplit : splitOrFail ',' (",".intercalate (item :: rest)) =
          .ok ((item :: rest).map String.toList) := by
        rw [splitOrFail_eq_ok_iff, split_eq_ok_iff (by decide)]
        refine ⟨by simp, ?_, ?_⟩
        · rw [String.toList_intercalate]
          rfl
        · simpa using hitems
      rw [parseItems, hsplit, Attempt.ok_bind, filterMap_itemText?_eq]
      rfl

end Query

/-! ### Values of items -/

namespace Navigator

variable {nav : Navigator} {text : String} {failure : Failure QueryError} {value : Binary64}

theorem orRaise_eq_ok_iff {α : Type} {cause : Cause} {option : Option α} {a : α} :
    nav.orRaise cause option = .ok a ↔ option = some a := by
  cases option <;> simp [orRaise, raise]

theorem orRaise_eq_error_iff {α : Type} {cause : Cause} {option : Option α} :
    nav.orRaise cause option = .error failure ↔
      option = none ∧ failure = .error ⟨cause, nav.query⟩ := by
  cases option <;> simp [orRaise, raise, eq_comm]

theorem number?_eq_some_iff {json : Json} :
    json.number? = some value ↔ ∃ n, json = .num n ∧ n.toBinary64 = value := by
  cases json <;> simp [Json.number?]

variable [Regex.Engine]

/-- The item is a finite decimal literal, or a path to a number. -/
def IsNumeric (nav : Navigator) (text : String) : Prop :=
  (∃ x, parseNumber? text.toList = some x) ∨ ∃ n, nav.evaluatePath text = .ok (.num n)

/-- How an item fails that is no literal: as its path does, or because its value is no number. -/
inductive ItemFails (nav : Navigator) (text : String) : Failure QueryError → Prop where
  | path {failure : Failure QueryError} (hliteral : parseNumber? text.toList = none)
      (hpath : nav.evaluatePath text = .error failure) : nav.ItemFails text failure
  | notNumber {value : Json} (hliteral : parseNumber? text.toList = none)
      (hpath : nav.evaluatePath text = .ok value) (hvalue : value.number? = none) :
      nav.ItemFails text (.error ⟨.itemNotNumber text, nav.query⟩)

theorem itemValue_of_literal {x : Finite64} (hliteral : parseNumber? text.toList = some x) :
    nav.itemValue text = .ok (Binary64.finite x).roundToHundredths := by
  rw [itemValue, hliteral]

theorem itemValue_of_not_literal (hliteral : parseNumber? text.toList = none) :
    nav.itemValue text = nav.evaluatePath text >>= fun value =>
      nav.orRaise (.itemNotNumber text) value.number? := by
  rw [itemValue, hliteral]

theorem exists_itemValue_eq_ok_iff :
    (∃ value, nav.itemValue text = .ok value) ↔ nav.IsNumeric text := by
  cases hliteral : parseNumber? text.toList with
  | some x => exact ⟨fun _ => .inl ⟨x, hliteral⟩, fun _ => ⟨_, itemValue_of_literal hliteral⟩⟩
  | none =>
      simp only [IsNumeric, itemValue_of_not_literal hliteral, Attempt.bind_eq_ok_iff,
        orRaise_eq_ok_iff, number?_eq_some_iff, hliteral]
      constructor
      · rintro ⟨value, json, hpath, n, rfl, -⟩
        exact .inr ⟨n, hpath⟩
      · rintro (⟨x, hx⟩ | ⟨n, hpath⟩)
        · cases hx
        · exact ⟨_, _, hpath, n, rfl, rfl⟩

theorem itemFails_of_itemValue_eq_error (hitem : nav.itemValue text = .error failure) :
    nav.ItemFails text failure := by
  cases hliteral : parseNumber? text.toList with
  | some x =>
      rw [itemValue_of_literal hliteral] at hitem
      cases hitem
  | none =>
      rw [itemValue_of_not_literal hliteral, Attempt.bind_eq_error_iff] at hitem
      rcases hitem with hpath | ⟨json, hpath, hnumber⟩
      · exact .path hliteral hpath
      · obtain ⟨hnone, rfl⟩ := orRaise_eq_error_iff.mp hnumber
        exact .notNumber hliteral hpath hnone

theorem isNaN_of_itemValue_eq_ok (hitem : nav.itemValue text = .ok value) :
    value.isNaN = false := by
  cases hliteral : parseNumber? text.toList with
  | some x =>
      rw [itemValue_of_literal hliteral] at hitem
      cases hitem
      exact Binary64.isNaN_roundToHundredths rfl
  | none =>
      rw [itemValue_of_not_literal hliteral] at hitem
      obtain ⟨json, -, hnumber⟩ := Attempt.bind_eq_ok_iff.mp hitem
      obtain ⟨n, -, rfl⟩ := number?_eq_some_iff.mp (orRaise_eq_ok_iff.mp hnumber)
      exact Binary64.isNaN_number n

end Navigator

/-! ### Lists -/

namespace Context

theorem ofBinary64_combine_eq_of_perm (kind : Aggregate) {values others : List Binary64}
    (hvalues : ∀ value ∈ values, value.isNaN = false) (hperm : values.Perm others) :
    Json.ofBinary64 ((combine kind values).getD .positiveZero) =
      .ofBinary64 ((combine kind others).getD .positiveZero) := by
  have halike : Option.Rel Binary64.Alike (combine kind values) (combine kind others) := by
    cases kind with
    | max => exact Statistics.rel_alike_greatest? hvalues hperm
    | min => exact Statistics.rel_alike_least? hvalues hperm
    | range => exact Statistics.rel_alike_spread? hvalues hperm
  generalize combine kind values = found, combine kind others = other at halike ⊢
  cases halike with
  | none => rfl
  | some hnumber => exact hnumber.ofBinary64_eq

end Context

namespace Navigator

variable {nav : Navigator} {kind : Aggregate} {items others : List String}

section Engine

variable [Regex.Engine]

theorem aggregate_intercalate (hitems : ∀ item ∈ items, IsPiece ',' item.toList) :
    nav.aggregate kind (",".intercalate items) =
      (items.filterMap itemText?).mapM nav.itemValue >>= fun values =>
        .ok (.ofBinary64 ((Context.combine kind values).getD .positiveZero)) := by
  rw [aggregate, Quoting.parseItems_eq, parseItems_intercalate hitems]
  rfl

theorem aggregate_eq_ok_iff {value : Json} (hitems : ∀ item ∈ items, IsPiece ',' item.toList) :
    nav.aggregate kind (",".intercalate items) = .ok value ↔
      ∃ numbers, List.Forall₂ (fun text number => nav.itemValue text = .ok number)
          (items.filterMap itemText?) numbers ∧
        value = .ofBinary64 ((Context.combine kind numbers).getD .positiveZero) := by
  rw [aggregate_intercalate hitems, Attempt.bind_eq_ok_iff]
  simp only [Attempt.mapM_eq_ok_iff, Except.ok.injEq, eq_comm (a := value)]

theorem exists_aggregate_eq_ok_iff (hitems : ∀ item ∈ items, IsPiece ',' item.toList) :
    (∃ value, nav.aggregate kind (",".intercalate items) = .ok value) ↔
      ∀ item ∈ items, Text.trimmed item ≠ "" → nav.IsNumeric (Text.trimmed item) := by
  rw [← forall_mem_filterMap_itemText?]
  simp only [← exists_itemValue_eq_ok_iff]
  rw [← Attempt.exists_mapM_eq_ok_iff]
  simp only [aggregate_eq_ok_iff hitems, Attempt.mapM_eq_ok_iff]
  constructor
  · rintro ⟨_, numbers, hnumbers, -⟩
    exact ⟨numbers, hnumbers⟩
  · rintro ⟨numbers, hnumbers⟩
    exact ⟨_, numbers, hnumbers, rfl⟩

/-- A list fails as the first of its items that does. -/
theorem exists_of_aggregate_eq_error {failure : Failure QueryError}
    (hitems : ∀ item ∈ items, IsPiece ',' item.toList)
    (hfailure : nav.aggregate kind (",".intercalate items) = .error failure) :
    ∃ before item after, items = before ++ item :: after ∧
      (∀ earlier ∈ before, Text.trimmed earlier ≠ "" → nav.IsNumeric (Text.trimmed earlier)) ∧
      Text.trimmed item ≠ "" ∧ nav.ItemFails (Text.trimmed item) failure := by
  rw [aggregate_intercalate hitems, Attempt.bind_eq_error_iff] at hfailure
  rcases hfailure with hmapM | ⟨values, -, hpure⟩
  · obtain ⟨front, text, back, hsplit, hfront, htext⟩ := Attempt.exists_of_mapM_eq_error hmapM
    -- between the items read before the failing one and that one, only blank items can stand
    obtain ⟨before, rest, rfl, rfl, hrest⟩ := List.filterMap_eq_append_iff.mp hsplit
    obtain ⟨blanks, item, after, rfl, hblanks, hitem, -⟩ := List.filterMap_eq_cons_iff.mp hrest
    obtain ⟨hne, rfl⟩ := itemText?_eq_some_iff.mp hitem
    refine ⟨before ++ blanks, item, after, by simp, ?_, hne, itemFails_of_itemValue_eq_error htext⟩
    intro earlier hmem hearlier
    rcases List.mem_append.mp hmem with hbefore | hblank
    · have hnumeric := forall_mem_filterMap_itemText?.mp hfront earlier hbefore hearlier
      exact exists_itemValue_eq_ok_iff.mp hnumeric
    · exact absurd (itemText?_eq_none_iff.mp (hblanks earlier hblank)) hearlier
  · cases hpure

/-- The value of a list is that of any list with the same items that are not blank, in any order. -/
theorem aggregate_eq_ok_of_perm {value : Json} (hitems : ∀ item ∈ items, IsPiece ',' item.toList)
    (hothers : ∀ item ∈ others, IsPiece ',' item.toList)
    (hperm : (others.filterMap itemText?).Perm (items.filterMap itemText?))
    (hvalue : nav.aggregate kind (",".intercalate items) = .ok value) :
    nav.aggregate kind (",".intercalate others) = .ok value := by
  obtain ⟨numbers, hnumbers, rfl⟩ := (aggregate_eq_ok_iff hitems).mp hvalue
  have hnoNaN : ∀ number ∈ numbers, number.isNaN = false :=
    Attempt.forall_mem_of_mapM_eq_ok (Attempt.mapM_eq_ok_iff.mpr hnumbers) fun _ _ _ =>
      isNaN_of_itemValue_eq_ok
  -- the numbers are permuted as their items are
  obtain ⟨shuffled, hshuffled, hsame⟩ := List.perm_comp_forall₂ hperm hnumbers
  rw [Context.ofBinary64_combine_eq_of_perm kind hnoNaN hsame.symm]
  exact (aggregate_eq_ok_iff hothers).mpr ⟨shuffled, hshuffled, rfl⟩

/-- A list between whose items commas stand, and no comma outside brackets in any of them, has a
value if each item that is not blank has a number. It fails as the first item does that has none.
The value is what the numbers of these items come to, and nothing else: it is also that of the items
in any other order with blank ones among them. -/
theorem aggregate_items_complete (nav : Navigator) (kind : Aggregate) (items : List String)
    (hitems : ∀ item ∈ items, IsPiece ',' item.toList) :
    ((∃ value, nav.aggregate kind (",".intercalate items) = .ok value) ↔
      ∀ item ∈ items, Text.trimmed item ≠ "" → nav.IsNumeric (Text.trimmed item)) ∧
    (∀ failure, nav.aggregate kind (",".intercalate items) = .error failure →
      ∃ before item after, items = before ++ item :: after ∧
        (∀ earlier ∈ before, Text.trimmed earlier ≠ "" →
          nav.IsNumeric (Text.trimmed earlier)) ∧
        Text.trimmed item ≠ "" ∧ nav.ItemFails (Text.trimmed item) failure) ∧
    ∀ value, nav.aggregate kind (",".intercalate items) = .ok value →
      (∃ numbers, List.Forall₂ (fun text number => nav.itemValue text = .ok number)
          (items.filterMap itemText?) numbers ∧
        value = .ofBinary64 ((Context.combine kind numbers).getD .positiveZero)) ∧
      ∀ blanks others : List String, (∀ blank ∈ blanks, Text.trimmed blank = "") →
        others.Perm (items ++ blanks) →
        nav.aggregate kind (",".intercalate others) = .ok value := by
  refine ⟨exists_aggregate_eq_ok_iff hitems, fun failure => exists_of_aggregate_eq_error hitems,
    fun value hvalue => ⟨(aggregate_eq_ok_iff hitems).mp hvalue,
      fun blanks others hblanks hperm => ?_⟩⟩
  have hothers : ∀ item ∈ others, IsPiece ',' item.toList := by
    intro item hmem
    rcases List.mem_append.mp (hperm.mem_iff.mp hmem) with hitem | hblank
    · exact hitems item hitem
    · exact isPiece_of_trimmed_eq_empty (hblanks item hblank)
  have hread : blanks.filterMap itemText? = [] := by
    rw [List.filterMap_eq_nil_iff]
    exact fun blank hmem => itemText?_eq_none_iff.mpr (hblanks blank hmem)
  have hsame : (others.filterMap itemText?).Perm (items.filterMap itemText?) := by
    simpa [hread] using hperm.filterMap itemText?
  exact aggregate_eq_ok_of_perm hitems hothers hsame hvalue

end Engine

open scoped Regex.Standard

/-- A key, a call and a literal, which have a value also in another order with a blank item among
them, and a list that fails at its second item. -/
theorem aggregate_items_complete_mixed :
    let nav : Navigator :=
      ⟨⟨.obj [("a", .num (.int 2 (by decide))), ("b", .arr [.null]), ("c", .str "x")], ⟨0, 0⟩⟩, "q"⟩
    (∃ value, nav.aggregate .range (",".intercalate ["a", " b.count() ", "2.5"]) = .ok value ∧
      nav.aggregate .range (",".intercalate ["2.5", " ", " b.count() ", "a"]) = .ok value) ∧
    ∃ before item after, ["a", "c", "d"] = before ++ item :: after ∧
      nav.ItemFails (Text.trimmed item) (.error ⟨.itemNotNumber "c", "q"⟩) := by
  intro nav
  have hpiece {item : String} (hbalanced : Balanced item.toList) (hcomma : ',' ∉ item.toList) :
      IsPiece ',' item.toList :=
    ⟨hbalanced, fun before after heq _ => hcomma (by simp [heq])⟩
  constructor
  · have hitems : ∀ item ∈ ["a", " b.count() ", "2.5"], IsPiece ',' item.toList := by
      simp only [List.forall_mem_cons]
      exact ⟨hpiece (by decide) (by decide), hpiece (by decide) (by decide),
        hpiece (by decide) (by decide), nofun⟩
    have hnumeric : ∀ item ∈ ["a", " b.count() ", "2.5"], Text.trimmed item ≠ "" →
        nav.IsNumeric (Text.trimmed item) := by
      have hliteral : ∃ x, parseNumber? (Text.trimmed "2.5").toList = some x :=
        Option.isSome_iff_exists.mp (by decide +kernel)
      simp only [List.forall_mem_cons]
      exact ⟨fun _ => .inr ⟨_, rfl⟩, fun _ => .inr ⟨_, rfl⟩, fun _ => .inl hliteral, nofun⟩
    obtain ⟨hvalue, -, hshuffled⟩ := aggregate_items_complete nav .range _ hitems
    obtain ⟨value, hvalue⟩ := hvalue.mpr hnumeric
    exact ⟨value, hvalue, (hshuffled value hvalue).2 [" "] _ (by decide) (by decide)⟩
  · have hitems : ∀ item ∈ ["a", "c", "d"], IsPiece ',' item.toList := by
      simp only [List.forall_mem_cons]
      exact ⟨hpiece (by decide) (by decide), hpiece (by decide) (by decide),
        hpiece (by decide) (by decide), nofun⟩
    obtain ⟨before, item, after, hsplit, -, -, hfails⟩ :=
      (aggregate_items_complete nav .max _ hitems).2.1 _ rfl
    exact ⟨before, item, after, hsplit, hfails⟩

end Navigator

end DotQuery

import DotQuery.Evaluation.Evaluate
import DotQuery.Proofs.KeyPath
import DotQuery.Proofs.Rendering

/-!
# Plain queries

Keys without dots and brackets, joined by dots, are read back as these keys whatever else stands in
them: the text opens no list, and it is a broadcast only if its first key is the word for one. Such
a query follows its keys through objects and sequences.
-/

namespace DotQuery

open Query Attempt

/-! ### Following keys -/

namespace Json

variable {value target : Json} {key : String} {keys : List String} {index : Nat}

/-- The key is the index in decimal digits, perhaps behind a plus sign. -/
def IsIndex (key : String) (index : Nat) : Prop :=
  ∃ digits, (key.toList = digits ∨ key.toList = '+' :: digits) ∧ digits ≠ [] ∧
    (∀ c ∈ digits, c.isDigit = true) ∧ Text.digitsValue digits = index

/-- Following the keys one by one, into the members of objects and the items of sequences, ends at
the target. -/
inductive Reaches : Json → List String → Json → Prop where
  | here (value : Json) : Reaches value [] value
  | member {members : List (String × Json)} {key : String} {child : Json} {keys : List String}
      {target : Json} (hmember : members.lookup key = some child)
      (hchild : Reaches child keys target) : Reaches (.obj members) (key :: keys) target
  | item {items : List Json} {key : String} {index : Nat} {child : Json} {keys : List String}
      {target : Json} (hindex : IsIndex key index) (hitem : items[index]? = some child)
      (hchild : Reaches child keys target) : Reaches (.arr items) (key :: keys) target

theorem natural?_eq_some_iff : Text.natural? key.toList = some index ↔ IsIndex key index := by
  have hdigits (digits : List Char) :
      (if digits.isEmpty || !digits.all Char.isDigit then none
        else some (Text.digitsValue digits)) = some index ↔
      digits ≠ [] ∧ (∀ c ∈ digits, c.isDigit = true) ∧ Text.digitsValue digits = index := by
    rw [← List.all_eq_true]
    cases digits with
    | nil => simp
    | cons c rest => cases hall : (c :: rest).all Char.isDigit <;> simp
  unfold Text.natural?
  dsimp only
  rw [hdigits]
  constructor
  · rintro hvalue
    refine ⟨_, ?_, hvalue⟩
    unfold Text.withoutPlus
    split
    · next hplus => exact Or.inr hplus
    · exact Or.inl rfl
  · rintro ⟨digits, hkey | hkey, hne, hall, hvalue⟩
    · -- digits do not start with a plus sign, so none is taken off
      have hplus : Text.withoutPlus key.toList = digits := by
        rw [hkey]
        unfold Text.withoutPlus
        split
        · exact absurd (hall '+' List.mem_cons_self) (by decide)
        · rfl
      rw [hplus]
      exact ⟨hne, hall, hvalue⟩
    · have hplus : Text.withoutPlus key.toList = digits := by rw [hkey]; rfl
      rw [hplus]
      exact ⟨hne, hall, hvalue⟩

theorem lookup?_eq_some_iff : value.lookup? keys = some target ↔ value.Reaches keys target := by
  induction keys generalizing value with
  | nil =>
      constructor
      · rintro ⟨⟩
        exact .here _
      · rintro ⟨⟩
        rfl
  | cons key rest ih =>
      rw [lookup?, Option.bind_eq_some_iff]
      constructor
      · rintro ⟨child, hchild, hrest⟩
        cases value with
        | obj members => exact .member hchild (ih.mp hrest)
        | arr items =>
            obtain ⟨index, hindex, hitem⟩ := Option.bind_eq_some_iff.mp hchild
            exact .item (natural?_eq_some_iff.mp hindex) hitem (ih.mp hrest)
        | _ => cases hchild
      · rintro (_ | ⟨hmember, hrest⟩ | ⟨hindex, hitem, hrest⟩)
        · exact ⟨_, hmember, ih.mpr hrest⟩
        · refine ⟨_, ?_, ih.mpr hrest⟩
          exact Option.bind_eq_some_iff.mpr ⟨_, natural?_eq_some_iff.mpr hindex, hitem⟩

end Json

/-! ### Reading plain keys -/

namespace Query

variable {keys : List String} {key : String}

/-- The key has no dot and no bracket; any other character may stand in it. -/
def IsPlainKey (key : String) : Prop :=
  ∀ c ∈ key.toList, c ≠ '.' ∧ isBracket c = false

instance (key : String) : Decidable (IsPlainKey key) :=
  decidable_of_iff (key.toList.all fun c => c != '.' && !isBracket c) (by simp [IsPlainKey])

/-- The keys joined by dots. -/
def dotted (keys : List String) : String :=
  ".".intercalate keys

theorem toList_dotted (keys : List String) :
    (dotted keys).toList = ['.'].intercalate (keys.map String.toList) :=
  String.toList_intercalate

theorem dotted_cons (key next : String) (rest : List String) :
    (dotted (key :: next :: rest)).toList =
      key.toList ++ '.' :: (dotted (next :: rest)).toList := by
  simp only [toList_dotted, List.map_cons, List.intercalate_cons_cons, List.append_assoc,
    List.singleton_append]

theorem not_isBracket_of_mem_dotted (hplain : ∀ key ∈ keys, IsPlainKey key) :
    ∀ c ∈ (dotted keys).toList, isBracket c = false := by
  induction keys with
  | nil => exact fun c hmem => absurd hmem List.not_mem_nil
  | cons key rest ih =>
      rw [List.forall_mem_cons] at hplain
      cases rest with
      | nil =>
          intro c hmem
          exact (hplain.1 c (by simpa [toList_dotted] using hmem)).2
      | cons next rest =>
          intro c hmem
          rw [dotted_cons, List.mem_append, List.mem_cons] at hmem
          rcases hmem with hkey | rfl | hrest
          · exact (hplain.1 c hkey).2
          · decide
          · exact ih hplain.2 c hrest

/-- Every list of queries opens with a bracket. -/
theorem openedList?_eq_none {text : List Char} (hplain : ∀ c ∈ text, isBracket c = false) :
    openedList? text = none := by
  rw [openedList?, List.findSome?_eq_none_iff]
  intro aggregate _
  rw [Option.map_eq_none_iff, Option.eq_none_iff_forall_ne_some]
  intro rest hrest
  have hbracket : '(' ∈ aggregate.opening.toList := by cases aggregate <;> decide
  rw [Text.dropLeading?_eq_some_iff.mp hrest] at hplain
  exact absurd (hplain '(' (List.mem_append_left _ hbracket)) (by decide)

/-- Plain keys are a broadcast if another key follows the word for it. -/
theorem dropLeading?_broadcastMark_eq_none (hplain : ∀ key ∈ keys, IsPlainKey key)
    (heach : keys.head? = some "each" → keys.length < 2) :
    Text.dropLeading? broadcastMark (dotted keys).toList = none := by
  rw [Option.eq_none_iff_forall_ne_some]
  intro body hbody
  have htext := Text.dropLeading?_eq_some_iff.mp hbody
  cases keys with
  | nil => cases htext
  | cons key rest =>
      have hkey : '.' ∉ key.toList := fun hmem => (hplain key List.mem_cons_self '.' hmem).1 rfl
      cases rest with
      | nil =>
          rw [toList_dotted, List.map_singleton, List.intercalate_singleton] at htext
          exact hkey (htext ▸ by simp [broadcastMark])
      | cons next rest =>
          rw [dotted_cons] at htext
          have hcut : Text.cut? ['.'] (key.toList ++ '.' :: (dotted (next :: rest)).toList) =
              some ("each".toList, body) :=
            Text.cut?_singleton_eq_some_iff.mpr ⟨htext, by decide⟩
          have hfirst := hcut.symm.trans (Text.cut?_singleton_eq_some_iff.mpr ⟨rfl, hkey⟩)
          have heq : "each" = key := String.toList_inj.mp (Prod.mk.inj (Option.some.inj hfirst)).1
          have hlength := heach (congrArg some heq.symm)
          simp only [List.length_cons] at hlength
          omega

theorem parseForm_dotted (hplain : ∀ key ∈ keys, IsPlainKey key)
    (heach : keys.head? = some "each" → keys.length < 2) :
    parseForm (dotted keys) = .ok (.path (dotted keys)) := by
  simp only [parseForm, openedList?_eq_none (not_isBracket_of_mem_dotted hplain),
    dropLeading?_broadcastMark_eq_none hplain heach]

theorem parseSegments_dotted (hkeys : keys ≠ []) (hplain : ∀ key ∈ keys, IsPlainKey key) :
    parseSegments (dotted keys) = .ok (keys.map .key) := by
  have htexts : (keys.map Segment.key).map (fun segment => segment.text.toList) =
      keys.map String.toList := by
    rw [List.map_map]
    rfl
  rw [parseSegments_eq_ok_iff, htexts]
  refine ⟨⟨by simpa using hkeys, (toList_dotted keys).symm, ?_⟩, ?_⟩
  · intro piece hmem
    obtain ⟨key, hkey, rfl⟩ := List.mem_map.mp hmem
    simpa using IsPiece.nil.append_plain (hplain key hkey)
  · intro segment hmem
    obtain ⟨key, hkey, rfl⟩ := List.mem_map.mp hmem
    refine .key fun hbracket => ?_
    exact absurd (hplain key hkey '(' hbracket).2 (by decide)

end Query

namespace Context

/-- A plain query has the value that its keys reach, null or not, and if they reach none it fails
for its path. -/
theorem evaluate_dotted [Regex.Engine] (ctx : Context) {keys : List String} (hkeys : keys ≠ [])
    (hplain : ∀ key ∈ keys, IsPlainKey key)
    (heach : keys.head? = some "each" → keys.length < 2) :
    (∀ value, ctx.evaluate (dotted keys) = .ok value ↔ ctx.root.Reaches keys value) ∧
      ((¬∃ value, ctx.root.Reaches keys value) →
        ∃ e, ctx.evaluate (dotted keys) = .error (.error e) ∧ e.kind = .path) := by
  have hattempt : ctx.attempt (dotted keys) =
      ofOption (.noObjectPath (dotted keys)) (ctx.root.lookup? keys) := by
    rw [attempt, parseForm_dotted hplain heach, ofExcept_ok, ok_bind, evaluateForm,
      ctx.evaluatePath_eq_lookup? (parseSegments_dotted hkeys hplain)]
  refine ⟨fun value => ?_, fun hnone => ?_⟩
  · rw [evaluate, inQuery_eq_ok_iff, hattempt, ofOption_eq_ok_iff, Json.lookup?_eq_some_iff]
  · refine ⟨⟨.noObjectPath (dotted keys), dotted keys⟩, ?_, rfl⟩
    have hlookup : ctx.root.lookup? keys = none := by
      rw [Option.eq_none_iff_forall_ne_some]
      exact fun value hvalue => hnone ⟨value, Json.lookup?_eq_some_iff.mp hvalue⟩
    rw [evaluate, inQuery_eq_error_iff, hattempt, hlookup]
    exact ⟨rfl, rfl⟩

open scoped Regex.Standard

/-- An empty key behind an index with a sign and zeros leads to null, and an index past the end of
its sequence leads nowhere. -/
theorem evaluate_dotted_index :
    let ctx : Context := ⟨.obj [("a", .arr [.obj [("", .null)]])], ⟨0, 0⟩⟩
    ctx.evaluate "a.+00." = .ok .null ∧
      ∃ e, ctx.evaluate "a.1" = .error (.error e) ∧ e.kind = .path := by
  intro ctx
  have hreaches : ctx.root.Reaches ["a", "+00", ""] .null := by
    rw [← Json.lookup?_eq_some_iff]
    rfl
  have hnone : ¬∃ value, ctx.root.Reaches ["a", "1"] value := by
    simp only [← Json.lookup?_eq_some_iff]
    exact fun ⟨value, hvalue⟩ => by cases hvalue
  exact ⟨((ctx.evaluate_dotted (List.cons_ne_nil "a" ["+00", ""]) (by decide)
      (by decide)).1 .null).mpr hreaches,
    (ctx.evaluate_dotted (List.cons_ne_nil "a" ["1"]) (by decide) (by decide)).2 hnone⟩

end Context

end DotQuery

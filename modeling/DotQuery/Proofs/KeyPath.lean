import DotQuery.Proofs.WalkComposition

/-!
# Paths of keys

A path without calls can be looked up or walked. The lookup enters objects and sequences alike, the
walk enters objects only and looks ahead at each of them. Both arrive at the same value unless a
sequence stands on the way, and there, as at a missing member, the walk stops with a path error.
-/

namespace DotQuery

open Query Attempt

namespace Json

variable {value target : Json} {key : String} {keys : List String}

/-- The keys lead from object to object up to the target, which may be any value. -/
inductive Descends : Json → List String → Json → Prop where
  | here (value : Json) : Descends value [] value
  | member {members : List (String × Json)} {key : String} {child : Json} {keys : List String}
      {target : Json} (hmember : members.lookup key = some child)
      (hchild : Descends child keys target) : Descends (.obj members) (key :: keys) target

/-- Some of the keys, from the first one on but not all of them, lead to a sequence. -/
def CrossesSequence (value : Json) (keys : List String) : Prop :=
  ∃ before, before <+: keys ∧ before ≠ keys ∧ ∃ items, value.lookup? before = some (.arr items)

theorem not_crossesSequence_nil : ¬value.CrossesSequence [] := by
  rintro ⟨before, hbefore, hne, -⟩
  exact hne (List.prefix_nil.mp hbefore)

/-- The first sequence on the way is the value itself, or it is on the way from its child. -/
theorem crossesSequence_cons_iff :
    value.CrossesSequence (key :: keys) ↔ (∃ items, value = .arr items) ∨
      ∃ child, value.child? key = some child ∧ child.CrossesSequence keys := by
  constructor
  · rintro ⟨before, hbefore, hne, items, hitems⟩
    cases before with
    | nil => exact Or.inl ⟨items, Option.some.inj hitems⟩
    | cons name before =>
        obtain ⟨rfl, hrest⟩ := List.cons_prefix_cons.mp hbefore
        obtain ⟨child, hchild, hitems⟩ := Option.bind_eq_some_iff.mp hitems
        refine Or.inr ⟨child, hchild, before, hrest, ?_, items, hitems⟩
        exact fun heq => hne (congrArg _ heq)
  · rintro (⟨items, rfl⟩ | ⟨child, hchild, before, hbefore, hne, items, hitems⟩)
    · exact ⟨[], List.nil_prefix, (List.cons_ne_nil _ _).symm, items, rfl⟩
    · refine ⟨key :: before, List.cons_prefix_cons.mpr ⟨rfl, hbefore⟩, ?_, items, ?_⟩
      · exact fun heq => hne (List.cons.inj heq).2
      · exact Option.bind_eq_some_iff.mpr ⟨child, hchild, hitems⟩

theorem descends_cons_iff :
    value.Descends (key :: keys) target ↔
      ∃ child, value.member? key = some child ∧ child.Descends keys target := by
  constructor
  · rintro (_ | ⟨hmember, hchild⟩)
    exact ⟨_, hmember, hchild⟩
  · rintro ⟨child, hmember, hchild⟩
    cases value with
    | obj members => exact .member hmember hchild
    | _ => cases hmember

/-- Through objects the keys lead where a lookup leads that meets no sequence on its way. -/
theorem descends_iff :
    value.Descends keys target ↔
      value.lookup? keys = some target ∧ ¬value.CrossesSequence keys := by
  induction keys generalizing value with
  | nil =>
      rw [and_iff_left not_crossesSequence_nil]
      constructor
      · rintro ⟨⟩
        rfl
      · rintro ⟨⟩
        exact .here _
  | cons key rest ih =>
      have hlookup : value.lookup? (key :: rest) = some target ↔
          ∃ child, value.child? key = some child ∧ child.lookup? rest = some target :=
        Option.bind_eq_some_iff
      rw [descends_cons_iff, hlookup, crossesSequence_cons_iff]
      cases value with
      | obj members =>
          constructor
          · rintro ⟨child, hmember, hchild⟩
            obtain ⟨htarget, hclear⟩ := ih.mp hchild
            refine ⟨⟨child, hmember, htarget⟩, ?_⟩
            rintro (⟨items, ⟨⟩⟩ | ⟨child', hchild', hcrosses⟩)
            cases hmember.symm.trans hchild'
            exact hclear hcrosses
          · rintro ⟨⟨child, hchild, htarget⟩, hclear⟩
            exact ⟨child, hchild, ih.mpr ⟨htarget, fun hcrosses =>
              hclear (Or.inr ⟨child, hchild, hcrosses⟩)⟩⟩
      | arr items =>
          constructor
          · rintro ⟨child, ⟨⟩, -⟩
          · rintro ⟨-, hclear⟩
            exact absurd (Or.inl ⟨items, rfl⟩) hclear
      | _ => simp [member?, child?]

end Json

namespace Context

variable (ctx : Context) {current member : Option Json} {key : String} {keys : List String}
  {target : Json} {failure : Failure Cause}

/-! ### Walking over keys -/

/-- With nothing behind it a key leads from any value that is no sequence and not null. -/
theorem stepKey_none_eq_ok_iff :
    stepKey current key none = .ok member ↔
      ∃ value, current = some value ∧ value.isArray = false ∧ value.isNull = false ∧
        value.member? key = member := by
  cases current with
  | none => simp [stepKey, Attempt.fail]
  | some value =>
      cases value <;> simp [stepKey, Attempt.fail, checkMember, Json.isArray, Json.isNull]

theorem eq_of_checkMember_eq_ok {next : Option Segment} {value : Option Json}
    (hcheck : checkMember key next member = .ok value) : value = member := by
  unfold checkMember at hcheck
  split at hcheck
  · split at hcheck
    · cases hcheck
    · split at hcheck
      · cases hcheck
      · exact (Except.ok.inj hcheck).symm
  · split at hcheck
    · cases hcheck
    · exact (Except.ok.inj hcheck).symm
  · exact (Except.ok.inj hcheck).symm

/-- What a key leads to does not depend on what follows it. -/
theorem stepKey_none_of_eq_ok {next : Option Segment}
    (hkey : stepKey current key next = .ok member) : stepKey current key none = .ok member := by
  rw [stepKey_eq_bind_checkMember] at hkey
  obtain ⟨found, hfound, hcheck⟩ := bind_eq_ok_iff.mp hkey
  rw [hfound, eq_of_checkMember_eq_ok hcheck]

theorem kind_of_checkMember_key_eq_error {next : Option String}
    (herror : checkMember key (next.map .key) member = .error failure) :
    failure.kind = .error .path := by
  cases next with
  | none => cases herror
  | some name =>
      simp only [Option.map_some, checkMember] at herror
      split at herror
      · cases herror
        rfl
      · split at herror
        · cases herror
          rfl
        · cases herror

theorem kind_of_stepKey_key_eq_error {next : Option String}
    (herror : stepKey current key (next.map .key) = .error failure) :
    failure.kind = .error .path := by
  unfold stepKey at herror
  split at herror
  · cases herror
    rfl
  · cases herror
    rfl
  · cases herror
    rfl
  · exact kind_of_checkMember_key_eq_error herror

section Engine

variable [Regex.Engine]

/-- The look-ahead does not matter for where a walk over keys ends: it agrees with the walk that
takes its first key alone. -/
theorem walkFrom_keys_eq_ok_iff :
    ctx.walkFrom current (keys.map .key) = .ok target ↔
      ∃ value, current = some value ∧ value.Descends keys target := by
  induction keys generalizing current with
  | nil =>
      rw [List.map_nil, walkFrom, ofOption_eq_ok_iff]
      constructor
      · rintro rfl
        exact ⟨target, rfl, .here target⟩
      · rintro ⟨value, rfl, ⟨⟩⟩
        rfl
  | cons key rest ih =>
      have hagree := ctx.agree_walkFrom_append current [.key key] (rest.map .key)
      rw [reach_key] at hagree
      rw [List.map_cons, ← List.singleton_append, hagree.ok_iff, bind_eq_ok_iff]
      simp only [stepKey_none_eq_ok_iff, ih, Json.descends_cons_iff]
      constructor
      · rintro ⟨_, ⟨value, rfl, -, -, rfl⟩, child, hmember, hchild⟩
        exact ⟨value, rfl, child, hmember, hchild⟩
      · rintro ⟨value, rfl, child, hmember, hchild⟩
        refine ⟨_, ⟨value, rfl, ?_, ?_, rfl⟩, child, hmember, hchild⟩
        · cases value <;> first | rfl | cases hmember
        · cases value <;> first | rfl | cases hmember

/-- A walk over keys can fail for nothing but its path. -/
theorem kind_of_walkFrom_keys_eq_error
    (herror : ctx.walkFrom current (keys.map .key) = .error failure) :
    failure.kind = .error .path := by
  induction keys generalizing current with
  | nil =>
      cases current with
      | none =>
          cases herror
          rfl
      | some value => cases herror
  | cons key rest ih =>
      rw [List.map_cons, walkFrom, List.head?_map] at herror
      rcases bind_eq_error_iff.mp herror with hstep | ⟨value, -, hrest⟩
      · exact kind_of_stepKey_key_eq_error hstep
      · exact ih hrest

/-! ### Lookups and walks -/

theorem evaluatePath_eq_lookup? {path : String}
    (hparse : parseSegments path = .ok (keys.map .key)) :
    ctx.evaluatePath path = ofOption (.noObjectPath path) (ctx.root.lookup? keys) := by
  have hcalls : (keys.map Segment.key).any Segment.isCall = false := by
    rw [List.any_map]
    exact List.any_eq_false.mpr fun _ _ => nofun
  have hkeys : (keys.map Segment.key).filterMap Segment.key? = keys := by
    rw [List.filterMap_map]
    exact List.filterMap_some
  simp only [evaluatePath, hparse, ofExcept_ok, ok_bind, hcalls, hkeys, Bool.false_eq_true,
    ↓reduceIte]

/-- A walk over keys finds what a lookup finds, unless a sequence stands on the way; it fails for
its path otherwise. So a path without calls has the value that a walk over it finds. -/
theorem walk_keys_across_objects (ctx : Context) :
    (∀ (keys : List String) value, ctx.walk ctx.root (keys.map .key) = .ok value ↔
      ctx.root.lookup? keys = some value ∧ ¬ctx.root.CrossesSequence keys) ∧
    (∀ keys : List String, ctx.root.lookup? keys = none ∨ ctx.root.CrossesSequence keys →
      ∃ cause, ctx.walk ctx.root (keys.map .key) = .error (.error cause) ∧ cause.kind = .path) ∧
    ∀ path (keys : List String) value, parseSegments path = .ok (keys.map .key) →
      ctx.walk ctx.root (keys.map .key) = .ok value → ctx.evaluatePath path = .ok value := by
  have hwalk : ∀ (keys : List String) value, ctx.walk ctx.root (keys.map .key) = .ok value ↔
      ctx.root.lookup? keys = some value ∧ ¬ctx.root.CrossesSequence keys := by
    intro keys value
    rw [walk, walkFrom_keys_eq_ok_iff, ← Json.descends_iff]
    simp only [Option.some.injEq, exists_eq_left']
  refine ⟨hwalk, fun keys hmissing => ?_, fun path keys value hparse hvalue => ?_⟩
  · cases hresult : ctx.walk ctx.root (keys.map .key) with
    | ok value =>
        obtain ⟨hfound, hclear⟩ := (hwalk keys value).mp hresult
        rcases hmissing with hnone | hcrosses
        · cases hfound.symm.trans hnone
        · exact absurd hcrosses hclear
    | error failure =>
        have hkind := ctx.kind_of_walkFrom_keys_eq_error hresult
        cases failure with
        | error cause => exact ⟨cause, rfl, Failure.error.inj hkind⟩
        | overflow => cases hkind
  · rw [ctx.evaluatePath_eq_lookup? hparse, ((hwalk keys value).mp hvalue).1, ofOption_some]

end Engine

open scoped Regex.Standard

/-- An index is looked up in a sequence but cannot be walked to, and null is found either way. -/
theorem walk_keys_across_objects_index :
    let ctx : Context := ⟨.obj [("a", .arr [.bool true]), ("o", .obj [("n", .null)])], ⟨0, 0⟩⟩
    ctx.root.lookup? ["a", "0"] = some (.bool true) ∧
      (∃ cause, ctx.walk ctx.root (["a", "0"].map .key) = .error (.error cause) ∧
        cause.kind = .path) ∧
      ctx.evaluatePath "o.n" = .ok .null := by
  intro ctx
  have hcrosses : ctx.root.CrossesSequence ["a", "0"] :=
    ⟨["a"], List.prefix_append ["a"] ["0"], by decide, [.bool true], rfl⟩
  exact ⟨rfl, (walk_keys_across_objects ctx).2.1 ["a", "0"] (Or.inr hcrosses),
    (walk_keys_across_objects ctx).2.2 "o.n" ["o", "n"] .null rfl rfl⟩

end Context

end DotQuery

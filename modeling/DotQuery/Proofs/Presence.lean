import DotQuery.Proofs.LastCall
import DotQuery.Proofs.LongestLiteral
import DotQuery.Proofs.PlainQuery
import DotQuery.Proofs.Rounding
import DotQuery.Proofs.SafeInteger

/-!
# Presence

Asking whether a key is there, or for a default in its place, tolerates any lack at the key itself
and none before it: each value on the way must be there and neither null nor a sequence. Even a
value without keys may stand directly before the key, which is then absent.
-/

namespace DotQuery

open Query Attempt

/-! ### What counts as missing -/

namespace Number

theorem isZero_toBinary64_iff {n : Number} : n.toBinary64.isZero = true ↔ n.Denotes 0 := by
  have hplace : n.toBinary64.isZero = true ↔ n.toBinary64.place = 0 := by
    rw [Binary64.isZero, Binary64.compare?_eq_compare_place (Binary64.isNaN_number n) rfl,
      beq_iff_eq, Option.some.injEq, Int.compare_eq_eq]
    rfl
  rw [hplace]
  cases n with
  | int n hword =>
      have hzero : (Binary64.ofInt 0).place = 0 := by
        rw [Binary64.place_ofInt_of_natAbs_le (by decide), Int.zero_mul]
      constructor
      · intro hn
        exact Binary64.eq_of_place_ofInt_eq (by decide) (hn.trans hzero.symm)
      · intro hn
        obtain rfl : n = 0 := hn
        exact hzero
  | float x =>
      rw [Denotes, Int.zero_mul]
      rfl

end Number

namespace Json

variable {value target : Json} {found : Option Json} {key : String} {keys : List String}

/-- There is no value, or one that says nothing. -/
inductive Missing : Option Json → Prop where
  | absent : Missing none
  | null : Missing (some .null)
  | empty : Missing (some (.str ""))

inductive MissingOrZero : Option Json → Prop where
  | missing {found : Option Json} (hmissing : Missing found) : MissingOrZero found
  | zero {n : Number} (hzero : n.Denotes 0) : MissingOrZero (some (.num n))

theorem isBlank_eq_true_iff : isBlank found = true ↔ Missing found := by
  constructor
  · intro hblank
    unfold isBlank at hblank
    split at hblank
    · exact .absent
    · exact .null
    · obtain rfl := String.isEmpty_iff.mp hblank
      exact .empty
    · cases hblank
  · rintro (_ | _ | _) <;> rfl

theorem isBlankOrZero_eq_true_iff : isBlankOrZero found = true ↔ MissingOrZero found := by
  rw [isBlankOrZero, Bool.or_eq_true, isBlank_eq_true_iff]
  constructor
  · rintro (hmissing | hzero)
    · exact .missing hmissing
    · rw [Option.any_eq_true] at hzero
      obtain ⟨a, ha, hzero⟩ := hzero
      obtain ⟨value, rfl, hnumber⟩ := Option.bind_eq_some_iff.mp ha
      cases value with
      | num n =>
          cases hnumber
          exact .zero (Number.isZero_toBinary64_iff.mp hzero)
      | _ => cases hnumber
  · rintro (hmissing | hzero)
    · exact Or.inl hmissing
    · exact Or.inr (Number.isZero_toBinary64_iff.mpr hzero)

/-! ### Ways to a key -/

/-- Each value on the way, both ends included, is there and neither null nor a sequence. -/
def Passable (value : Json) (keys : List String) : Prop :=
  ∀ before, before <+: keys →
    ∃ reached, value.Descends before reached ∧ reached.isArray = false ∧ reached.isNull = false

theorem Descends.passes (hdescends : value.Descends keys target) (harray : target.isArray = false)
    (hnull : target.isNull = false) : value.isArray = false ∧ value.isNull = false := by
  -- only the last value on a way can be anything but an object
  cases hdescends with
  | here => exact ⟨harray, hnull⟩
  | member => exact ⟨rfl, rfl⟩

theorem passable_iff :
    value.Passable keys ↔
      ∃ parent, value.Descends keys parent ∧ parent.isArray = false ∧ parent.isNull = false := by
  constructor
  · intro hpassable
    exact hpassable keys (List.prefix_refl keys)
  · rintro ⟨parent, hparent, harray, hnull⟩ before hbefore
    induction hparent generalizing before with
    | here value =>
        obtain rfl := List.prefix_nil.mp hbefore
        exact ⟨value, .here value, harray, hnull⟩
    | @member members key child keys parent hmember hchild ih =>
        cases before with
        | nil => exact ⟨_, .here _, rfl, rfl⟩
        | cons name before =>
            obtain ⟨rfl, hrest⟩ := List.cons_prefix_cons.mp hbefore
            obtain ⟨reached, hreached, hends⟩ := ih harray hnull before hrest
            exact ⟨reached, .member hmember hreached, hends⟩

theorem Descends.concat_iff {parent : Json} (hparent : value.Descends keys parent) :
    value.Descends (keys ++ [key]) target ↔ parent.member? key = some target := by
  induction hparent with
  | here value =>
      rw [List.nil_append, descends_cons_iff]
      constructor
      · rintro ⟨child, hmember, ⟨⟩⟩
        exact hmember
      · intro hmember
        exact ⟨target, hmember, .here target⟩
  | @member members name child keys parent hmember hchild ih =>
      rw [List.cons_append, descends_cons_iff, ← ih]
      constructor
      · rintro ⟨child', hmember', hchild'⟩
        cases hmember.symm.trans hmember'
        exact hchild'
      · intro htarget
        exact ⟨child, hmember, htarget⟩

end Json

namespace Operators

open Json

variable {found : Option Json}

theorem existsText_of_missingOrZero (hmissing : MissingOrZero found) :
    existsText found = "false" := by
  rw [existsText, if_pos (isBlankOrZero_eq_true_iff.mpr hmissing)]

theorem existsText_of_not_missingOrZero (hpresent : ¬MissingOrZero found) :
    existsText found = "true" := by
  rw [existsText, if_neg (mt isBlankOrZero_eq_true_iff.mp hpresent)]

theorem default_of_missing (call : Call) (hmissing : Missing found) :
    default call found = literal call.trimmedArgument := by
  rw [default, if_pos (isBlank_eq_true_iff.mpr hmissing)]

theorem default_of_not_missing (call : Call) {value : Json} (hpresent : ¬Missing (some value)) :
    default call (some value) = value := by
  rw [default, if_neg (mt isBlank_eq_true_iff.mp hpresent), Option.getD_some]

/-- What a text stands for as a default: the number that it starts with, or else the text without
the white space at its ends and without its quotes. -/
inductive StandsFor (text : String) : Json → Prop where
  | number {x : Finite64} (hnumber : StartsWithNumber text.toList x) :
      StandsFor text (.ofBinary64 (.finite x))
  | text (hnumber : ∀ x, ¬ StartsWithNumber text.toList x) :
      StandsFor text
        (.str (String.ofList ((Text.trim text.toList).filter fun c => c != '"' && c != '\'')))

theorem StandsFor.unique {text : String} {answer other : Json} (hanswer : StandsFor text answer)
    (hother : StandsFor text other) : answer = other := by
  cases hanswer with
  | number hx =>
      cases hother with
      | number hy => rw [hx.unique hy]
      | text hnone => exact absurd hx (hnone _)
  | text hnone =>
      cases hother with
      | number hy => exact absurd hy (hnone _)
      | text => rfl

theorem standsFor_literal (text : String) : StandsFor text (literal (Text.trimmed text)) := by
  have hread : parseLeadingNumber? (Text.trimmed text).toList =
      parseLeadingNumber? text.toList := by
    rw [Text.trimmed, String.toList_ofList, parseLeadingNumber?_trim]
  rw [literal, hread]
  cases hnumber : parseLeadingNumber? text.toList with
  | some x => exact .number (parseLeadingNumber?_eq_some_iff.mp hnumber)
  | none =>
      rw [Text.trimmed, String.toList_ofList]
      dsimp only
      rw [stripQuotes_eq_filter]
      exact .text (parseLeadingNumber?_eq_none_iff.mp hnumber)

theorem standsFor_five : StandsFor " 5abc" (.ofInt 5) := by
  have hread : (parseLeadingNumber? " 5abc".toList).map Binary64.finite =
      some (Binary64.ofInt 5) := by
    decide +kernel
  obtain ⟨five, hfive, hvalue⟩ := exists_startsWithNumber hread
  rw [← Binary64.ofBinary64_ofInt (by decide), ← hvalue]
  exact .number hfive

theorem standsFor_none : StandsFor " 'none' " (.str "none") := by
  refine .text (parseLeadingNumber?_eq_none_iff.mp ?_)
  decide +kernel

end Operators

namespace Context

variable (ctx : Context) {current member : Option Json} {value : Json} {key : String}
  {keys : List String} {failure : Failure Cause}

theorem stepKey_key_eq_ok_iff {name : String} :
    stepKey (some value) key (some (.key name)) = .ok member ↔
      ∃ child, value.member? key = some child ∧ child.isArray = false ∧ child.isNull = false ∧
        member = some child := by
  rw [stepKey_eq_bind_checkMember, bind_eq_ok_iff]
  simp only [stepKey_none_eq_ok_iff, Option.some.injEq]
  constructor
  · rintro ⟨_, ⟨_, rfl, -, -, rfl⟩, hcheck⟩
    rcases hmember : value.member? key with _ | child
    · rw [hmember] at hcheck
      cases hcheck
    · rw [hmember] at hcheck
      refine ⟨child, rfl, ?_⟩
      cases child <;> cases hcheck <;> exact ⟨rfl, rfl, rfl⟩
  · rintro ⟨child, hmember, harray, hnull, rfl⟩
    refine ⟨some child, ⟨value, rfl, ?_, ?_, hmember⟩, ?_⟩
    · cases value <;> first | rfl | cases hmember
    · cases value <;> first | rfl | cases hmember
    · simp [checkMember, harray, hnull]

section Engine

variable [Regex.Engine]

theorem reach_keys_eq_ok_iff :
    ctx.reach (some value) ((keys ++ [key]).map .key) = .ok member ↔
      ∃ parent, value.Descends keys parent ∧ parent.isArray = false ∧ parent.isNull = false ∧
        parent.member? key = member := by
  induction keys generalizing value with
  | nil =>
      rw [List.nil_append, List.map_singleton, reach_key, stepKey_none_eq_ok_iff]
      constructor
      · rintro ⟨parent, ⟨⟩, hparent⟩
        exact ⟨value, .here value, hparent⟩
      · rintro ⟨parent, ⟨⟩, hparent⟩
        exact ⟨value, rfl, hparent⟩
  | cons name rest ih =>
      obtain ⟨next, hnext⟩ :
          ∃ next, ((rest ++ [key]).map Segment.key).head? = some (.key next) := by
        cases rest <;> exact ⟨_, rfl⟩
      rw [List.cons_append, List.map_cons, reach, hnext, bind_eq_ok_iff]
      simp only [stepKey_key_eq_ok_iff, Json.descends_cons_iff]
      constructor
      · rintro ⟨_, ⟨child, hmember, -, -, rfl⟩, hrest⟩
        obtain ⟨parent, hparent, hends⟩ := ih.mp hrest
        exact ⟨parent, ⟨child, hmember, hparent⟩, hends⟩
      · rintro ⟨parent, ⟨child, hmember, hparent⟩, harray, hnull, hkey⟩
        -- what the look-ahead asks of the child holds of any value on the way to the parent
        obtain ⟨hchildArray, hchildNull⟩ := hparent.passes harray hnull
        exact ⟨some child, ⟨child, hmember, hchildArray, hchildNull, rfl⟩,
          ih.mpr ⟨parent, hparent, harray, hnull, hkey⟩⟩

theorem kind_of_reach_keys_eq_error
    (herror : ctx.reach current (keys.map .key) = .error failure) :
    failure.kind = .error .path := by
  have hwalk : ctx.walkFrom current (keys.map .key) = .error failure := by
    rw [walkFrom_eq_reach_bind, herror, error_bind]
  exact ctx.kind_of_walkFrom_keys_eq_error hwalk

/-! ### Calls behind keys -/

section Calls

variable {call : Call} {text : String}

theorem agree_dotted_call (hkeys : keys ≠ []) (hplain : ∀ name ∈ keys, IsPlainKey name)
    (hformed : (Segment.call call).WellFormed) (henclosed : (Segment.call call).Enclosed) :
    Agree (ctx.evaluatePath (dotted keys ++ "." ++ call.raw))
      (ctx.reach (some ctx.root) (keys.map .key) >>= ctx.stepCall call) := by
  have hparse := (parseSegments_append_call (dotted keys) hformed henclosed).mpr
    (parseSegments_dotted hkeys hplain)
  rw [ctx.evaluatePath_eq_walk hparse ⟨call, by simp⟩]
  exact ctx.agree_walk_concat_call ctx.root (keys.map .key) call

variable (hplain : ∀ name ∈ keys ++ [key], IsPlainKey name)
  (hformed : (Segment.call call).WellFormed) (henclosed : (Segment.call call).Enclosed)
include hplain hformed henclosed

theorem agree_apply_of_descends (htolerates : call.operator.toleratesAbsent = true) {parent : Json}
    (hparent : ctx.root.Descends keys parent) (harray : parent.isArray = false)
    (hnull : parent.isNull = false) :
    Agree (ctx.evaluatePath (dotted (keys ++ [key]) ++ "." ++ call.raw))
      (Operators.apply ctx call (parent.member? key)) := by
  have hagree := ctx.agree_dotted_call (by simp) hplain hformed henclosed
  have hreach : ctx.reach (some ctx.root) ((keys ++ [key]).map .key) = .ok (parent.member? key) :=
    ctx.reach_keys_eq_ok_iff.mpr ⟨parent, hparent, harray, hnull, rfl⟩
  rwa [hreach, ok_bind, ctx.stepCall_of_toleratesAbsent htolerates] at hagree

theorem exists_error_of_not_passable (hpassable : ¬ctx.root.Passable keys) :
    ∃ cause, ctx.evaluatePath (dotted (keys ++ [key]) ++ "." ++ call.raw) =
      .error (.error cause) ∧ cause.kind = .path := by
  have hagree := ctx.agree_dotted_call (by simp) hplain hformed henclosed
  cases hreach : ctx.reach (some ctx.root) ((keys ++ [key]).map .key) with
  | ok member =>
      obtain ⟨parent, hparent, harray, hnull, -⟩ := ctx.reach_keys_eq_ok_iff.mp hreach
      exact absurd (Json.passable_iff.mpr ⟨parent, hparent, harray, hnull⟩) hpassable
  | error failure =>
      obtain ⟨cause, rfl, hpath⟩ :=
        Failure.exists_eq_error (ctx.kind_of_reach_keys_eq_error hreach)
      rw [hreach, error_bind] at hagree
      obtain ⟨found, hfound, hkind⟩ := hagree.symm.exists_cause rfl
      exact ⟨found, hfound, hkind.trans hpath⟩

end Calls

/-- Existence and defaults see what the keys lead to, if anything. Each value before the last key
must be there and neither null nor a sequence; then any lack is tolerated, and otherwise the path is
an error. -/
theorem presence_of_key {text : String} (hplain : ∀ name ∈ keys ++ [key], IsPlainKey name)
    (hbalanced : Balanced text.toList) (hblank : Text.isAllBlank text.toList = false) :
    let asked := dotted (keys ++ [key]) ++ ".exists()"
    let defaulted := dotted (keys ++ [key]) ++ ".default(" ++ text ++ ")"
    (ctx.root.Passable keys →
      ∃ found, (∀ value, found = some value ↔ ctx.root.Descends (keys ++ [key]) value) ∧
        (Json.MissingOrZero found → ctx.evaluatePath asked = .ok (.str "false")) ∧
        (¬Json.MissingOrZero found → ctx.evaluatePath asked = .ok (.str "true")) ∧
        (Json.Missing found → ∃ answer, Operators.StandsFor text answer ∧
          ctx.evaluatePath defaulted = .ok answer) ∧
        (∀ value, found = some value → ¬Json.Missing found →
          ctx.evaluatePath defaulted = .ok value)) ∧
    (¬ctx.root.Passable keys →
      (∃ cause, ctx.evaluatePath asked = .error (.error cause) ∧ cause.kind = .path) ∧
      ∃ cause, ctx.evaluatePath defaulted = .error (.error cause) ∧ cause.kind = .path) := by
  intro asked defaulted
  have hasked : asked = dotted (keys ++ [key]) ++ "." ++ "exists()" := by
    rw [String.append_assoc]
    rfl
  have hdefaulted : defaulted =
      dotted (keys ++ [key]) ++ "." ++ ("default(" ++ text ++ ")") := by
    have hdot : ".default(" = "." ++ "default(" := rfl
    simp only [defaulted, hdot, String.append_assoc]
  have hexists : (Segment.call ⟨.exists, "", "exists()"⟩).WellFormed := .call rfl fun _ => rfl
  have hdefault : (Segment.call ⟨.default, text, "default(" ++ text ++ ")"⟩).WellFormed :=
    .call rfl fun hall => absurd (hblank.symm.trans hall) Bool.false_ne_true
  rw [hasked, hdefaulted]
  refine ⟨fun hpassable => ?_, fun hpassable => ?_⟩
  · obtain ⟨parent, hparent, harray, hnull⟩ := Json.passable_iff.mp hpassable
    have hfound : Agree (ctx.evaluatePath (dotted (keys ++ [key]) ++ "." ++ "exists()"))
        (.ok (.str (Operators.existsText (parent.member? key)))) :=
      ctx.agree_apply_of_descends hplain hexists .nil rfl hparent harray hnull
    have hanswer : Agree
        (ctx.evaluatePath (dotted (keys ++ [key]) ++ "." ++ ("default(" ++ text ++ ")")))
        (.ok (Operators.default ⟨.default, text, "default(" ++ text ++ ")"⟩
          (parent.member? key))) :=
      ctx.agree_apply_of_descends hplain hdefault hbalanced rfl hparent harray hnull
    refine ⟨parent.member? key, fun value => hparent.concat_iff.symm, ?_, ?_, ?_, ?_⟩
    · intro hmissing
      rw [hfound.ok_iff, Operators.existsText_of_missingOrZero hmissing]
    · intro hpresent
      rw [hfound.ok_iff, Operators.existsText_of_not_missingOrZero hpresent]
    · intro hmissing
      rw [Operators.default_of_missing _ hmissing] at hanswer
      exact ⟨_, Operators.standsFor_literal text, hanswer.ok_iff.mpr rfl⟩
    · intro value hvalue hpresent
      rw [hvalue] at hpresent hanswer
      rw [hanswer.ok_iff, Operators.default_of_not_missing _ hpresent]
  · have hasking := ctx.exists_error_of_not_passable hplain hexists .nil hpassable
    have hdefaulting := ctx.exists_error_of_not_passable hplain hdefault hbalanced hpassable
    exact ⟨hasking, hdefaulting⟩

end Engine

open scoped Regex.Standard

/-- A default that starts with a number stands for it, and any other for its text. A null is no
longer missing one key earlier: behind it nothing can be asked, nor behind a sequence. -/
theorem presence_of_key_null :
    let ctx : Context := ⟨.obj [("a", .obj [("n", .null)]), ("l", .arr [])], ⟨0, 0⟩⟩
    ctx.evaluatePath "a.n.exists()" = .ok (.str "false") ∧
    ctx.evaluatePath "a.n.default( 5abc)" = .ok (.ofInt 5) ∧
    ctx.evaluatePath "a.n.default( 'none' )" = .ok (.str "none") ∧
    (∃ cause, ctx.evaluatePath "a.n.x.exists()" = .error (.error cause) ∧ cause.kind = .path) ∧
    ∃ cause, ctx.evaluatePath "l.x.default( 'none' )" = .error (.error cause) ∧
      cause.kind = .path := by
  intro ctx
  have hnumber : Balanced " 5abc".toList := by decide
  have hbalanced : Balanced " 'none' ".toList := by decide
  have hpassable : ctx.root.Passable ["a"] :=
    Json.passable_iff.mpr ⟨_, .member rfl (.here _), rfl, rfl⟩
  have hnull : ¬ctx.root.Passable ["a", "n"] := by
    rw [Json.passable_iff]
    rintro ⟨parent, hparent, -, hnull⟩
    obtain ⟨child, hchild, hparent⟩ := Json.descends_cons_iff.mp hparent
    cases hchild
    obtain ⟨child, hchild, ⟨⟩⟩ := Json.descends_cons_iff.mp hparent
    cases hchild
    cases hnull
  have hsequence : ¬ctx.root.Passable ["l"] := by
    rw [Json.passable_iff]
    rintro ⟨parent, hparent, harray, -⟩
    obtain ⟨child, hchild, ⟨⟩⟩ := Json.descends_cons_iff.mp hparent
    cases hchild
    cases harray
  have hmember : ∀ name ∈ ["a"] ++ ["n"], IsPlainKey name := by decide
  have hbehindNull : ∀ name ∈ ["a", "n"] ++ ["x"], IsPlainKey name := by decide
  have hbehindSequence : ∀ name ∈ ["l"] ++ ["x"], IsPlainKey name := by decide
  have hn : ctx.root.Descends (["a"] ++ ["n"]) .null := .member rfl (.member rfl (.here _))
  obtain ⟨found, hfound, hasked, -, hdefaulted, -⟩ :=
    (presence_of_key ctx hmember hbalanced rfl).1 hpassable
  obtain rfl : some .null = found := ((hfound .null).mpr hn).symm
  obtain ⟨text, htext, hanswer⟩ := hdefaulted .null
  obtain ⟨found, hfound, -, -, hdefaulted, -⟩ :=
    (presence_of_key ctx hmember hnumber rfl).1 hpassable
  obtain rfl : some .null = found := ((hfound .null).mpr hn).symm
  obtain ⟨number, hfive, hcounted⟩ := hdefaulted .null
  obtain rfl := hfive.unique Operators.standsFor_five
  obtain rfl := htext.unique Operators.standsFor_none
  exact ⟨hasked (.missing .null), hcounted, hanswer,
    ((presence_of_key ctx hbehindNull hbalanced rfl).2 hnull).1,
    ((presence_of_key ctx hbehindSequence hbalanced rfl).2 hsequence).2⟩

end Context

end DotQuery

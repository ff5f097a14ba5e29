import DotQuery.Evaluation.Walk
import DotQuery.Proofs.Attempt

/-!
# Walking along a path that is cut in two

A key looks at the segment behind it, so the same walk runs different checks when its path is cut
there. The look-ahead only chooses between the wordings of a path error: a walk over the whole path
agrees with a walk over its first part that is continued over the second.
-/

namespace DotQuery

open Query Attempt

namespace Query.Segment

/-- Whether an absent value may stand before the segment. -/
def toleratesAbsent : Segment → Bool
  | .key _ => false
  | .call c => c.operator.toleratesAbsent

end Query.Segment

namespace Context

/-- A key first finds its member and then looks ahead. -/
theorem stepKey_eq_bind_checkMember (parent : Option Json) (key : String)
    (next : Option Segment) :
    stepKey parent key next = stepKey parent key none >>= checkMember key next := by
  cases parent with
  | none => rfl
  | some value => cases value <;> rfl

section Engine

variable [Regex.Engine]

/-- The value behind the last segment, absent or not, before anyone asks for a result. -/
def reach (ctx : Context) (current : Option Json) : List Segment → Attempt (Option Json)
  | [] => .ok current
  | .key name :: rest => do
    let value ← stepKey current name rest.head?
    ctx.reach value rest
  | .call call :: rest => do
    let value ← ctx.stepCall call current
    ctx.reach (some value) rest

variable (ctx : Context)

theorem walkFrom_eq_reach_bind (current : Option Json) (segments : List Segment) :
    ctx.walkFrom current segments = ctx.reach current segments >>= ofOption .noResult := by
  induction segments generalizing current with
  | nil => rfl
  | cons segment rest ih =>
      cases segment with
      | key name => simp only [walkFrom, reach, bind_assoc, ih]
      | call call => simp only [walkFrom, reach, bind_assoc, ih]

theorem walk_eq_reach_bind (start : Json) (segments : List Segment) :
    ctx.walk start segments = ctx.reach (some start) segments >>= ofOption .noResult :=
  ctx.walkFrom_eq_reach_bind (some start) segments

theorem reach_key (current : Option Json) (key : String) :
    ctx.reach current [.key key] = stepKey current key none := by
  simp only [reach, List.head?_nil]
  exact bind_pure _

theorem stepCall_of_toleratesAbsent {call : Call}
    (htolerates : call.operator.toleratesAbsent = true) (found : Option Json) :
    ctx.stepCall call found = Operators.apply ctx call found := by
  simp [stepCall, htolerates]

/-- A sequence may stand before every operator. -/
theorem stepCall_arr (call : Call) (items : List Json) :
    ctx.stepCall call (some (.arr items)) = Operators.apply ctx call (some (.arr items)) := by
  simp [stepCall, Json.isArray]

/-! ### The look-ahead is diagnostic -/

/-- What the look-ahead at a key refuses, the key itself refuses on the value. -/
theorem agree_checkMember_key (key name : String) (member : Option Json)
    (rest : List Segment) :
    Agree
      (checkMember key (some (.key name)) member >>= fun value =>
        ctx.walkFrom value (.key name :: rest))
      (ctx.walkFrom member (.key name :: rest)) := by
  cases member with
  | none => exact .failure rfl
  | some value =>
      cases value with
      | null => exact .failure rfl
      | arr items => exact .failure rfl
      | bool _ | num _ | str _ | obj _ => exact .refl _

/-- What the look-ahead at a call refuses, the call itself refuses on the value. -/
theorem agree_checkMember_call (key : String) (call : Call) (member : Option Json)
    (rest : List Segment) :
    Agree
      (checkMember key (some (.call call)) member >>= fun value =>
        ctx.walkFrom value (.call call :: rest))
      (ctx.walkFrom member (.call call :: rest)) := by
  by_cases hrefused : !call.operator.toleratesAbsent && !member.any Json.isArray
  · simp only [checkMember, walkFrom, stepCall, hrefused, ↓reduceIte]
    exact .failure rfl
  · simp only [checkMember, hrefused]
    exact .refl _

theorem agree_checkMember (key : String) (member : Option Json) (segments : List Segment) :
    Agree
      (checkMember key segments.head? member >>= fun value => ctx.walkFrom value segments)
      (ctx.walkFrom member segments) := by
  cases segments with
  | nil => exact .refl _
  | cons segment rest =>
      cases segment with
      | key name => exact ctx.agree_checkMember_key key name member rest
      | call call => exact ctx.agree_checkMember_call key call member rest

/-! ### Composition -/

/-- A walk agrees with the walk that stops between two segments and goes on from there. -/
theorem agree_walkFrom_append (current : Option Json) (first second : List Segment) :
    Agree (ctx.walkFrom current (first ++ second))
      (ctx.reach current first >>= fun value => ctx.walkFrom value second) := by
  induction first generalizing current with
  | nil => exact .refl _
  | cons segment rest ih =>
      cases segment with
      | call call =>
          simp only [List.cons_append, walkFrom, reach, bind_assoc]
          exact (Agree.refl _).bind fun value => ih (some value)
      | key name =>
          cases rest with
          | nil =>
              -- only here does the cut change what the key sees behind it
              simp only [List.cons_append, List.nil_append, walkFrom, reach, List.head?_nil]
              rw [stepKey_eq_bind_checkMember, bind_assoc, bind_assoc]
              exact (Agree.refl _).bind fun member =>
                ctx.agree_checkMember name member second
          | cons next rest =>
              simp only [List.cons_append, walkFrom, reach, bind_assoc, List.head?_cons]
              exact (Agree.refl _).bind fun value => ih value

/-- A walk up to a last call agrees with the call on what is reached before it. -/
theorem agree_walk_concat_call (start : Json) (segments : List Segment) (call : Call) :
    Agree (ctx.walk start (segments ++ [.call call]))
      (ctx.reach (some start) segments >>= ctx.stepCall call) := by
  have hagree := ctx.agree_walkFrom_append (some start) segments [.call call]
  have hlast (value : Option Json) :
      ctx.walkFrom value [.call call] = ctx.stepCall call value := by
    rw [walkFrom]
    exact bind_pure _
  simp only [hlast] at hagree
  exact hagree

/-- A walk that fails before the cut fails there with the same words. -/
theorem walkFrom_append_of_reach_eq_error {current : Option Json} {first : List Segment}
    {failure : Failure Cause} (hreach : ctx.reach current first = .error failure)
    (second : List Segment) :
    ctx.walkFrom current (first ++ second) = .error failure := by
  induction first generalizing current with
  | nil => cases hreach
  | cons segment rest ih =>
      cases segment with
      | call call =>
          simp only [List.cons_append, walkFrom, reach] at hreach ⊢
          exact bind_eq_error_of_imp hreach fun value hrest => ih hrest
      | key name =>
          cases rest with
          | nil =>
              simp only [List.cons_append, List.nil_append, walkFrom, reach, List.head?_nil]
                at hreach ⊢
              rw [stepKey_eq_bind_checkMember, bind_assoc]
              refine bind_eq_error_of_imp hreach fun value hvalue => ?_
              cases hvalue
          | cons next rest =>
              simp only [List.cons_append, walkFrom, reach, List.head?_cons] at hreach ⊢
              exact bind_eq_error_of_imp hreach fun value hrest => ih hrest

/-! ### Walks from a value that is there -/

theorem walk_eq_ok_iff {start value : Json} {segments : List Segment} :
    ctx.walk start segments = .ok value ↔
      ctx.reach (some start) segments = .ok (some value) := by
  rw [walk_eq_reach_bind, bind_eq_ok_iff]
  simp only [ofOption_eq_ok_iff, exists_eq_right]

/-- A walk fails on its way, or behind its last segment for want of a value. -/
theorem reach_of_walk_eq_error {start : Json} {segments : List Segment}
    {failure : Failure Cause} (hwalk : ctx.walk start segments = .error failure) :
    ctx.reach (some start) segments = .error failure ∨
      ctx.reach (some start) segments = .ok none ∧ failure = .error .noResult := by
  rw [walk_eq_reach_bind, bind_eq_error_iff] at hwalk
  rcases hwalk with hreach | ⟨value, hreach, hlack⟩
  · exact Or.inl hreach
  · cases value with
    | some value => cases hlack
    | none =>
        cases hlack
        exact Or.inr ⟨hreach, rfl⟩

/-- Only a segment that tolerates absence goes on from an absent value. -/
theorem walkFrom_none_eq_error {next : Segment} (hnext : next.toleratesAbsent = false)
    (rest : List Segment) :
    ∃ cause, ctx.walkFrom none (next :: rest) = .error (.error cause) ∧ cause.kind = .path := by
  cases next with
  | key name => exact ⟨.noObject name, rfl, rfl⟩
  | call call =>
      refine ⟨.notSequence call.raw, ?_, rfl⟩
      have htolerates : call.operator.toleratesAbsent = false := hnext
      simp [walkFrom, stepCall, htolerates, Attempt.fail]

/-- Walks compose. A walk that succeeds up to the cut agrees with the walk that starts over from the
value found there; one that fails there keeps its failure, unless it only lacked a final value; and
a final value that was lacking is a path error as soon as a segment follows that needs one. -/
theorem walk_append (start : Json) (first second : List Segment) :
    (∀ value, ctx.walk start first = .ok value →
      Agree (ctx.walk start (first ++ second)) (ctx.walk value second)) ∧
    (∀ failure, ctx.walk start first = .error failure → failure ≠ .error .noResult →
      ctx.walk start (first ++ second) = .error failure) ∧
    (∀ next rest, second = next :: rest → next.toleratesAbsent = false →
      ctx.walk start first = .error (.error .noResult) →
      ∃ cause, ctx.walk start (first ++ second) = .error (.error cause) ∧
        cause.kind = .path) := by
  have hagree := ctx.agree_walkFrom_append (some start) first second
  refine ⟨?_, ?_, ?_⟩
  · intro value hfirst
    rwa [ctx.walk_eq_ok_iff.mp hfirst, ok_bind] at hagree
  · intro failure hfirst hne
    rcases ctx.reach_of_walk_eq_error hfirst with hreach | ⟨-, hlack⟩
    · exact ctx.walkFrom_append_of_reach_eq_error hreach second
    · exact absurd hlack hne
  · rintro next rest rfl hnext hfirst
    rcases ctx.reach_of_walk_eq_error hfirst with hreach | ⟨hreach, -⟩
    · exact ⟨.noResult, ctx.walkFrom_append_of_reach_eq_error hreach _, rfl⟩
    · rw [hreach, ok_bind] at hagree
      obtain ⟨cause, hcause, hpath⟩ := ctx.walkFrom_none_eq_error hnext rest
      obtain ⟨failure, hfailure, hkind⟩ := hagree.symm.exists_error hcause
      cases failure with
      | overflow => cases hkind
      | error found =>
          refine ⟨found, hfailure, ?_⟩
          rw [← hpath]
          exact Failure.error.inj hkind

end Engine

open scoped Regex.Standard

/-- The cut behind a sequence changes the words of the error and not its kind; a missing key before
the cut fails for good; and behind a missing member nothing can be counted. -/
theorem walk_append_sequence_and_missing :
    Agree (walk ⟨.null, ⟨0, 0⟩⟩ (.obj [("a", .arr [])]) ([.key "a"] ++ [.key "b"]))
      (walk ⟨.null, ⟨0, 0⟩⟩ (.arr []) [.key "b"]) ∧
    walk ⟨.null, ⟨0, 0⟩⟩ (.obj [("a", .arr [])]) ([.key "b", .key "c"] ++ [.key "d"]) =
      .error (.error (.noObject "b")) ∧
    ∃ cause, walk ⟨.null, ⟨0, 0⟩⟩ (.obj [("a", .arr [])])
        ([.key "b"] ++ [.call ⟨.count, "", "count()"⟩]) = .error (.error cause) ∧
      cause.kind = .path :=
  ⟨(walk_append ⟨.null, ⟨0, 0⟩⟩ _ [.key "a"] _).1 _ rfl,
    (walk_append ⟨.null, ⟨0, 0⟩⟩ _ [.key "b", .key "c"] _).2.1 _ rfl (by decide),
    (walk_append ⟨.null, ⟨0, 0⟩⟩ _ [.key "b"] _).2.2 _ _ rfl rfl rfl⟩

end Context

end DotQuery

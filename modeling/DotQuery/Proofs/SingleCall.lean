import DotQuery.Proofs.LastCall

/-!
# One call a segment

A segment that is read as a call opens with a group behind the name of its operator. The argument
reaches up to the end of the segment, not of the group, so it is balanced exactly if nothing stands
behind the group. What may stand there is told by its last character alone: behind a closing round
bracket it goes into the argument, and otherwise the segment is refused.
-/

namespace DotQuery.Query

open Attempt

/-- The name of an operator, the group of its call, and what stands behind the group. -/
def Operator.groupText (operator : Operator) (body behind : List Char) : List Char :=
  operator.name.toList ++ '(' :: (body ++ ')' :: behind)

theorem getLast?_append_closer (body : List Char) {behind : List Char} (hne : behind ≠ []) :
    (body ++ ')' :: behind).getLast? = behind.getLast? := by
  rw [List.getLast?_append_of_ne_nil _ (List.cons_ne_nil _ _), List.getLast?_cons_of_ne_nil hne]

namespace Call

variable {call : Call} {body behind : List Char}

/-- The segment of the call opens with a group around `body` and goes on with `behind`. -/
structure OpensWith (call : Call) (body behind : List Char) : Prop where
  raw : call.raw.toList = call.operator.groupText body behind
  body : Balanced body
  behind : Balanced behind

theorem exists_opensWith (hformed : (Segment.call call).WellFormed)
    (hbalanced : Balanced call.raw.toList) : ∃ body behind, call.OpensWith body behind := by
  cases hformed with
  | call hraw _ =>
      have hwritten := congrArg String.toList hraw
      rw [toList_written] at hwritten
      rw [hwritten] at hbalanced
      have hgroup := Balanced.of_append_plain (fun c hc => (call.operator.name_plain c hc).2)
        hbalanced
      obtain ⟨body, behind, heq, hbody, hbehind⟩ := hgroup.exists_of_cons_opener rfl
      exact ⟨body, behind, by rw [hwritten, heq, Operator.groupText], hbody, hbehind⟩

section Argument

variable (hformed : (Segment.call call).WellFormed) (hopens : call.OpensWith body behind)
include hformed hopens

theorem OpensWith.argument_append :
    call.argument.toList ++ [')'] = body ++ ')' :: behind := by
  cases hformed with
  | call hraw _ =>
      have hwritten := congrArg String.toList hraw
      rw [toList_written, hopens.raw, Operator.groupText, List.append_cancel_left_eq] at hwritten
      exact (List.cons.inj hwritten).2.symm

theorem OpensWith.balanced_argument_iff : Balanced call.argument.toList ↔ behind = [] := by
  have happend := hopens.argument_append hformed
  have hround : closer? '(' = some ')' := rfl
  constructor
  · -- two balanced texts with a closing bracket behind them, the group and the argument, are one
    intro hargument
    obtain ⟨-, -, hbehind⟩ :=
      Balanced.append_closer_inj hround hround hargument hopens.body happend
    exact hbehind.symm
  · rintro rfl
    rw [List.append_cancel_right happend]
    exact hopens.body

theorem OpensWith.getLast?_behind (hne : behind ≠ []) : behind.getLast? = some ')' := by
  have hlast := congrArg List.getLast? (hopens.argument_append hformed)
  rw [List.getLast?_concat, getLast?_append_closer body hne] at hlast
  exact hlast.symm

end Argument

end Call

/-! ### What stands behind a group -/

section Behind

variable {text : String} {operator : Operator} {body behind : List Char}

theorem parseSegment_groupText (hne : behind ≠ []) (hlast : behind.getLast? ≠ some ')') :
    parseSegment (operator.groupText body behind) =
      .error (.malformedArguments (String.ofList (operator.groupText body behind))) := by
  have hcut := Text.cut?_singleton_eq_some_iff.mpr
    ⟨(rfl : operator.groupText body behind = _), operator.bracket_not_mem_name⟩
  have hname : Operator.ofName? operator.name = some operator :=
    Operator.ofName?_eq_some_iff.mpr rfl
  have hdrop : Text.dropTrailing? [')'] (body ++ ')' :: behind) = none := by
    rw [Option.eq_none_iff_forall_ne_some]
    intro argument hargument
    have hend := congrArg List.getLast? (Text.dropTrailing?_eq_some_iff.mp hargument)
    rw [List.getLast?_concat, getLast?_append_closer body hne] at hend
    exact hlast hend
  simp [parseSegment, hcut, hname, hdrop]

theorem exists_of_mem_groupText {pieces : List (List Char)}
    (hsplit : IsSplitting '.' text.toList pieces)
    (hmem : operator.groupText body behind ∈ pieces) (hne : behind ≠ [])
    (hlast : behind.getLast? ≠ some ')') :
    ∃ cause, parseSegments text = .error cause ∧ cause.kind = .operator := by
  cases hparse : parseSegments text with
  | error cause => exact ⟨cause, rfl, kind_of_parseSegments_eq_error hparse⟩
  | ok segments =>
      obtain ⟨pieces', hpieces', hsegments⟩ := bind_eq_ok_iff.mp hparse
      have hpieces := (split_eq_ok_iff (by decide)).mpr hsplit
      cases hpieces.symm.trans (splitOrFail_eq_ok_iff.mp hpieces')
      obtain ⟨segment, hsegment⟩ :=
        exists_mapM_eq_ok_iff.mp ⟨segments, hsegments⟩ _ hmem
      rw [parseSegment_groupText hne hlast] at hsegment
      cases hsegment

theorem exists_parseSegments_groupText {front : List Char} (hbody : Balanced body)
    (hpiece : IsPiece '.' (front ++ [')']))
    (htext : text.toList = operator.groupText body (front ++ [')'])) :
    ∃ argument, argument.toList = body ++ ')' :: front ∧
      parseSegments text = .ok [.call ⟨operator, argument, text⟩] ∧
      (Segment.call ⟨operator, argument, text⟩).WellFormed ∧
      Call.OpensWith ⟨operator, argument, text⟩ body (front ++ [')']) := by
  let call : Call := ⟨operator, String.ofList (body ++ ')' :: front), text⟩
  have hraw : call.raw = call.written := by
    rw [← String.toList_inj, Call.toList_written]
    simp [call, htext, Operator.groupText]
  have hargument : Text.isAllBlank call.argument.toList = false := by
    have hbracket : Text.isBlank ')' = false := by decide
    simp [call, Text.isAllBlank, hbracket]
  have hformed : (Segment.call call).WellFormed :=
    .call hraw fun hblank => absurd (hargument.symm.trans hblank) Bool.false_ne_true
  have hwhole : IsPiece '.' text.toList := by
    rw [htext, Operator.groupText]
    exact (IsPiece.group (by decide) rfl hbody hpiece).append_plain operator.name_plain
  refine ⟨call.argument, String.toList_ofList, ?_, hformed, ⟨htext, hbody, hpiece.balanced⟩⟩
  rw [parseSegments_eq_ok_iff]
  refine ⟨⟨by simp, by simp [Segment.text], ?_⟩, by simpa using hformed⟩
  simpa [Segment.text] using hwhole

end Behind

/-- A segment that is read as a call has a balanced argument exactly if nothing stands behind its
first group. A segment with more behind it is refused, unless it ends in a closing round bracket:
then everything up to there is the argument, which is not balanced. -/
theorem call_is_one_group (text : String) :
    (∀ segments, parseSegments text = .ok segments → ∀ call, .call call ∈ segments →
      ∃ body behind, call.OpensWith body behind ∧
        (Balanced call.argument.toList ↔ behind = []) ∧
        (behind ≠ [] → behind.getLast? = some ')')) ∧
    (∀ pieces operator body behind, IsSplitting '.' text.toList pieces →
      Operator.groupText operator body behind ∈ pieces → behind ≠ [] →
      behind.getLast? ≠ some ')' →
      ∃ cause, parseSegments text = .error cause ∧ cause.kind = .operator) ∧
    ∀ operator body front, text.toList = Operator.groupText operator body (front ++ [')']) →
      Balanced body → IsPiece '.' (front ++ [')']) →
      ∃ argument, parseSegments text = .ok [.call ⟨operator, argument, text⟩] ∧
        argument.toList = body ++ ')' :: front ∧ ¬Balanced argument.toList := by
  refine ⟨?_, ?_, ?_⟩
  · intro segments hparse call hmem
    obtain ⟨hsplit, hformed⟩ := parseSegments_eq_ok_iff.mp hparse
    have hpiece := hsplit.isPiece _ (List.mem_map_of_mem hmem)
    obtain ⟨body, behind, hopens⟩ := Call.exists_opensWith (hformed _ hmem) hpiece.balanced
    exact ⟨body, behind, hopens, hopens.balanced_argument_iff (hformed _ hmem),
      hopens.getLast?_behind (hformed _ hmem)⟩
  · intro pieces operator body behind hsplit hmem hne hlast
    exact exists_of_mem_groupText hsplit hmem hne hlast
  · intro operator body front htext hbody hpiece
    obtain ⟨argument, hargument, hparse, hformed, hopens⟩ :=
      exists_parseSegments_groupText hbody hpiece htext
    refine ⟨argument, hparse, hargument, fun hbalanced => ?_⟩
    have hnil := (hopens.balanced_argument_iff hformed).mp hbalanced
    exact absurd hnil (by simp)

/-- A square group behind the call is refused and a round one is not; groups within the first one
belong to it. -/
theorem call_is_one_group_round_and_square :
    (∃ cause, parseSegments "a.count()[]" = .error cause ∧ cause.kind = .operator) ∧
      (∃ body, Call.OpensWith ⟨.map, "x(y)", "map(x(y))"⟩ body []) ∧
      ∃ argument, parseSegments "count()(x)" = .ok [.call ⟨.count, argument, "count()(x)"⟩] ∧
        ¬Balanced argument.toList := by
  have hsplit : IsSplitting '.' "a.count()[]".toList ["a".toList, "count()[]".toList] :=
    (split_eq_ok_iff (by decide)).mp rfl
  have hrefused := (call_is_one_group "a.count()[]").2.1 _ .count [] "[]".toList hsplit
    (List.mem_cons_of_mem _ List.mem_cons_self) (by decide) (by decide)
  obtain ⟨body, behind, hopens, hbalanced, -⟩ := (call_is_one_group "a.map(x(y))").1
    [.key "a", .call ⟨.map, "x(y)", "map(x(y))"⟩] rfl _
    (List.mem_cons_of_mem _ List.mem_cons_self)
  obtain rfl := hbalanced.mp (by decide)
  have hpiece : IsPiece '.' ("(x".toList ++ [')']) := by
    have hwhole : IsSplitting '.' "(x)".toList ["(x)".toList] :=
      (split_eq_ok_iff (by decide)).mp rfl
    exact hwhole.isPiece _ List.mem_cons_self
  obtain ⟨argument, hparse, -, hunbalanced⟩ :=
    (call_is_one_group "count()(x)").2.2 .count [] "(x".toList rfl .nil hpiece
  exact ⟨hrefused, ⟨body, hopens⟩, argument, hparse, hunbalanced⟩

/-- A second group goes into the argument of the first call. -/
theorem argument_of_second_group :
    parseSegments "a.count()(x)" = .ok [.key "a", .call ⟨.count, ")(x", "count()(x)"⟩] ∧
      ¬Balanced ")(x".toList :=
  ⟨rfl, by decide⟩

end DotQuery.Query

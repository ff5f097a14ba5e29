import DotQuery.Proofs.LeadingKeys
import DotQuery.Proofs.Rendering
import DotQuery.Evaluation.Evaluate

/-!
# Queries that differ in their last call

Two queries that are written alike up to their last calls are read alike up to these, whatever
stands before them. So they are answered alike if the two calls do the same to every value.
-/

namespace DotQuery

open Query Attempt

namespace Query

/-! ### The last piece of a text -/

section Pieces

variable {separator : Char} {front behind text piece : List Char} {pieces : List (List Char)}

theorem closesExactly_append_balanced (hbehind : Balanced behind) (awaited front : List Char) :
    closesExactly awaited (front ++ behind) = closesExactly awaited front := by
  induction front generalizing awaited with
  | nil =>
      have hend := closesExactly_append hbehind awaited []
      rwa [List.append_nil] at hend
  | cons c front ih =>
      rw [List.cons_append, closesExactly, closesExactly]
      cases await? awaited c with
      | none => rfl
      | some following => exact ih following

theorem Balanced.of_append (hbehind : Balanced behind) (htext : Balanced (front ++ behind)) :
    Balanced front := by
  rw [← isBalanced_eq_true_iff, isBalanced] at htext ⊢
  rwa [closesExactly_append_balanced hbehind] at htext

theorem intercalate_concat (separator : Char) (hpieces : pieces ≠ []) (piece : List Char) :
    [separator].intercalate (pieces ++ [piece]) =
      [separator].intercalate pieces ++ separator :: piece := by
  induction pieces with
  | nil => exact absurd rfl hpieces
  | cons first others ih =>
      by_cases hothers : others = []
      · simp [hothers]
      · rw [List.cons_append, List.intercalate_cons_of_ne_nil (by simp), ih hothers,
          List.intercalate_cons_of_ne_nil hothers]
        simp

theorem IsSplitting.concat (hsplit : IsSplitting separator text pieces)
    (hpiece : IsPiece separator piece) :
    IsSplitting separator (text ++ separator :: piece) (pieces ++ [piece]) where
  ne_nil := by simp
  join := by rw [intercalate_concat separator hsplit.ne_nil, hsplit.join]
  isPiece := by
    intro part hmem
    rcases List.mem_append.mp hmem with hfront | hlast
    · exact hsplit.isPiece part hfront
    · rwa [List.mem_singleton.mp hlast]

/-- A text that ends in a separator and a piece is split in front of these, and there it is split
as if they were not there. -/
theorem IsSplitting.exists_of_concat (hseparator : isBracket separator = false)
    (hpiece : IsPiece separator piece)
    (hsplit : IsSplitting separator (text ++ separator :: piece) pieces) :
    ∃ front, pieces = front ++ [piece] ∧ IsSplitting separator text front := by
  have hbalanced : Balanced (text ++ separator :: piece) := by
    rw [← exists_split_eq_ok_iff hseparator]
    exact ⟨pieces, (split_eq_ok_iff hseparator).mpr hsplit⟩
  have hfront := Balanced.of_append (.plain hseparator hpiece.balanced) hbalanced
  obtain ⟨front, hok⟩ := (exists_split_eq_ok_iff hseparator).mpr hfront
  have hparts := (split_eq_ok_iff hseparator).mp hok
  have hwhole := (split_eq_ok_iff hseparator).mpr (hparts.concat hpiece)
  have hsame := ((split_eq_ok_iff hseparator).mpr hsplit).symm.trans hwhole
  exact ⟨front, Except.ok.inj hsame, hparts⟩

end Pieces

/-! ### Reading -/

section Reading

variable {path : String} {segments : List Segment} {first second call : Call} {cause : Cause}

theorem kind_of_parseSegments_eq_error (hparse : parseSegments path = .error cause) :
    cause.kind = .operator := by
  rcases bind_eq_error_iff.mp hparse with hsplit | ⟨pieces, -, hpieces⟩
  · unfold splitOrFail at hsplit
    split at hsplit
    · cases hsplit
    · cases hsplit
      rfl
  · obtain ⟨-, piece, -, -, -, hpiece⟩ := mapM_eq_error_iff.mp hpieces
    unfold parseSegment at hpiece
    dsimp only at hpiece
    split at hpiece
    · cases hpiece
    · split at hpiece
      · cases hpiece
        rfl
      · split at hpiece
        · cases hpiece
          rfl
        · split at hpiece
          · cases hpiece
            rfl
          · cases hpiece

/-- Two paths are read as the same segments before the last ones, which are these calls, or neither
can be read. -/
inductive EndIn (first second : Call) :
    Except Cause (List Segment) → Except Cause (List Segment) → Prop where
  | read (segments : List Segment) :
      EndIn first second (.ok (segments ++ [.call first])) (.ok (segments ++ [.call second]))
  | unread {cause cause' : Cause} (hcause : cause.kind = .operator)
      (hcause' : cause'.kind = .operator) : EndIn first second (.error cause) (.error cause')

theorem parseSegments_append_call (path : String) (hformed : (Segment.call call).WellFormed)
    (henclosed : (Segment.call call).Enclosed) :
    parseSegments (path ++ "." ++ call.raw) = .ok (segments ++ [.call call]) ↔
      parseSegments path = .ok segments := by
  have htext : (path ++ "." ++ call.raw).toList = path.toList ++ '.' :: call.raw.toList := by
    simp
  have hpiece : IsPiece '.' call.raw.toList := isPiece_text hformed henclosed
  have hlast : (segments ++ [Segment.call call]).map (fun segment => segment.text.toList) =
      segments.map (fun segment => segment.text.toList) ++ [call.raw.toList] := by
    rw [List.map_append]
    rfl
  rw [parseSegments_eq_ok_iff, parseSegments_eq_ok_iff, htext, hlast]
  constructor
  · rintro ⟨hsplit, hsegments⟩
    obtain ⟨front, heq, hfront⟩ := hsplit.exists_of_concat (by decide) hpiece
    obtain ⟨rfl, -⟩ := List.append_inj' heq rfl
    exact ⟨hfront, fun segment hmem => hsegments segment (List.mem_append_left _ hmem)⟩
  · rintro ⟨hsplit, hsegments⟩
    refine ⟨hsplit.concat hpiece, fun segment hmem => ?_⟩
    rcases List.mem_append.mp hmem with hfront | hlast
    · exact hsegments segment hfront
    · rwa [List.mem_singleton.mp hlast]

theorem exists_segments_of_append_call (hformed : (Segment.call call).WellFormed)
    (henclosed : (Segment.call call).Enclosed)
    (hparse : parseSegments (path ++ "." ++ call.raw) = .ok segments) :
    ∃ front, parseSegments path = .ok front := by
  obtain ⟨hsplit, hsegments⟩ := parseSegments_eq_ok_iff.mp hparse
  have htext : (path ++ "." ++ call.raw).toList = path.toList ++ '.' :: call.raw.toList := by
    simp
  rw [htext] at hsplit
  obtain ⟨front, heq, hfront⟩ :=
    hsplit.exists_of_concat (by decide) (isPiece_text hformed henclosed)
  obtain ⟨before, last, rfl, hbefore, -⟩ := List.map_eq_append_iff.mp heq
  refine ⟨before, parseSegments_eq_ok_iff.mpr ⟨hbefore ▸ hfront, fun segment hmem => ?_⟩⟩
  exact hsegments segment (List.mem_append_left _ hmem)

variable (hfirst : (Segment.call first).WellFormed ∧ (Segment.call first).Enclosed)
  (hsecond : (Segment.call second).WellFormed ∧ (Segment.call second).Enclosed)
include hfirst hsecond

theorem endIn_append (path : String) :
    EndIn first second (parseSegments (path ++ "." ++ first.raw))
      (parseSegments (path ++ "." ++ second.raw)) := by
  cases hpath : parseSegments path with
  | ok segments =>
      rw [(parseSegments_append_call path hfirst.1 hfirst.2).mpr hpath,
        (parseSegments_append_call path hsecond.1 hsecond.2).mpr hpath]
      exact .read segments
  | error refusal =>
      have hunread {call : Call} (hcall : (Segment.call call).WellFormed ∧
          (Segment.call call).Enclosed) :
          ∃ cause, parseSegments (path ++ "." ++ call.raw) = .error cause := by
        cases hparse : parseSegments (path ++ "." ++ call.raw) with
        | error cause => exact ⟨cause, rfl⟩
        | ok segments =>
            obtain ⟨front, hfront⟩ := exists_segments_of_append_call hcall.1 hcall.2 hparse
            rw [hpath] at hfront
            cases hfront
      obtain ⟨cause, hcause⟩ := hunread hfirst
      obtain ⟨cause', hcause'⟩ := hunread hsecond
      rw [hcause, hcause']
      exact .unread (kind_of_parseSegments_eq_error hcause)
        (kind_of_parseSegments_eq_error hcause')

omit hsecond in
theorem parseSegments_call : parseSegments first.raw = .ok [.call first] := by
  have hpiece : IsPiece '.' first.raw.toList := isPiece_text hfirst.1 hfirst.2
  rw [parseSegments_eq_ok_iff]
  refine ⟨⟨by simp, by simp [Segment.text], ?_⟩, by simpa using hfirst.1⟩
  simpa [Segment.text] using hpiece

end Reading

/-! ### Forms -/

section Forms

variable {path : String}

theorem openedList?_append_eq_none (hpath : openedList? path.toList = none) (rest : List Char) :
    openedList? (path.toList ++ '.' :: rest) = none := by
  rw [openedList?, List.findSome?_eq_none_iff] at hpath ⊢
  intro aggregate hmem
  rw [Option.map_eq_none_iff, Option.eq_none_iff_forall_ne_some]
  intro after hafter
  have hopening := Text.dropLeading?_eq_some_iff.mp hafter
  have hnone := Option.map_eq_none_iff.mp (hpath aggregate hmem)
  rcases List.append_eq_append_iff.mp hopening with ⟨within, hwithin, hrest⟩ |
      ⟨within, hwithin, -⟩
  · -- the opening reaches beyond the path, up to the dot behind it
    cases within with
    | nil =>
        rw [List.append_nil] at hwithin
        rw [Text.dropLeading?_eq_some_iff.mpr (by rw [hwithin, List.append_nil])] at hnone
        cases hnone
    | cons c within =>
        obtain ⟨rfl, -⟩ := List.cons.inj hrest
        have hdot : '.' ∈ aggregate.opening.toList := by
          rw [hwithin]
          simp
        cases aggregate <;> exact absurd hdot (by decide)
  · rw [Text.dropLeading?_eq_some_iff.mpr hwithin] at hnone
    cases hnone

/-- Only the word for a broadcast becomes one by the dot behind it. -/
theorem dropLeading?_broadcastMark_append_eq_none (heach : path ≠ "each")
    (hpath : Text.dropLeading? broadcastMark path.toList = none) (rest : List Char) :
    Text.dropLeading? broadcastMark (path.toList ++ '.' :: rest) = none := by
  rw [Option.eq_none_iff_forall_ne_some] at hpath ⊢
  intro body hbody
  rcases List.append_eq_append_iff.mp (Text.dropLeading?_eq_some_iff.mp hbody) with
    ⟨within, hwithin, hrest⟩ | ⟨within, hwithin, -⟩
  · cases within with
    | nil =>
        rw [List.append_nil] at hwithin
        exact hpath [] (Text.dropLeading?_eq_some_iff.mpr (by rw [hwithin, List.append_nil]))
    | cons c within =>
        obtain ⟨rfl, -⟩ := List.cons.inj hrest
        have hfirst : '.' ∉ path.toList := by
          intro hmem
          have hcount := congrArg (List.count '.') hwithin
          have hpos := List.count_pos_iff.mpr hmem
          have hone : broadcastMark.count '.' = 1 := by decide
          rw [hone, List.count_append, List.count_cons_self] at hcount
          omega
        have hcut := Text.cut?_singleton_eq_some_iff.mpr ⟨hwithin, hfirst⟩
        have hmark : Text.cut? ['.'] broadcastMark = some ("each".toList, []) := by decide
        have hword := (Prod.mk.inj (Option.some.inj (hcut.symm.trans hmark))).1
        exact heach (String.toList_inj.mp hword)
  · exact hpath within (Text.dropLeading?_eq_some_iff.mpr hwithin)

/-- How the rest of a query is read behind a path that opens no list. -/
inductive LeadsInto (path : String) : Prop where
  | path (hform : ∀ rest, parseForm (path ++ "." ++ rest) = .ok (.path (path ++ "." ++ rest)))
  | broadcast (body : String)
      (hform : ∀ rest, parseForm (path ++ "." ++ rest) = .ok (.broadcast (body ++ "." ++ rest)))
  | each (hform : ∀ rest, parseForm (path ++ "." ++ rest) = .ok (.broadcast rest))

theorem leadsInto (hpath : openedList? path.toList = none) : LeadsInto path := by
  have hopened (rest : String) : openedList? (path ++ "." ++ rest).toList = none := by
    have hnone := openedList?_append_eq_none hpath rest.toList
    simpa using hnone
  by_cases heach : path = "each"
  · subst heach
    refine .each fun rest => ?_
    have hdrop : Text.dropLeading? broadcastMark ("each" ++ "." ++ rest).toList =
        some rest.toList := by
      rw [Text.dropLeading?_eq_some_iff]
      simp [broadcastMark]
    simp only [parseForm, hopened, hdrop, String.ofList_toList]
  · cases hdrop : Text.dropLeading? broadcastMark path.toList with
    | some body =>
        refine .broadcast (String.ofList body) fun rest => ?_
        have hlonger : Text.dropLeading? broadcastMark (path ++ "." ++ rest).toList =
            some (String.ofList body ++ "." ++ rest).toList := by
          have htext := Text.dropLeading?_eq_some_iff.mp hdrop
          rw [Text.dropLeading?_eq_some_iff]
          simp [htext]
        simp only [parseForm, hopened, hlonger, String.ofList_toList]
    | none =>
        refine .path fun rest => ?_
        have hlonger : Text.dropLeading? broadcastMark (path ++ "." ++ rest).toList = none := by
          have hnone := dropLeading?_broadcastMark_append_eq_none heach hdrop rest.toList
          simpa using hnone
        simp only [parseForm, hopened, hlonger]

end Forms

end Query

/-! ### Evaluating -/

namespace Context

variable [Regex.Engine] {ctx : Context} {first second : Call}

section Segments

variable (hcalls : ∀ base, Agree (ctx.stepCall first base) (ctx.stepCall second base))
include hcalls

theorem agree_walkFrom_of_last_call (current : Option Json) (segments : List Segment) :
    Agree (ctx.walkFrom current (segments ++ [.call first]))
      (ctx.walkFrom current (segments ++ [.call second])) := by
  have hlast (value : Option Json) :
      Agree (ctx.walkFrom value [.call first]) (ctx.walkFrom value [.call second]) :=
    (hcalls value).bind fun _ => .refl _
  have hcut := ctx.agree_walkFrom_append current segments [.call first]
  have hcut' := ctx.agree_walkFrom_append current segments [.call second]
  exact hcut.trans (((Agree.refl _).bind hlast).trans hcut'.symm)

theorem agree_evaluatePath_of_endIn {path path' : String}
    (hread : EndIn first second (parseSegments path) (parseSegments path')) :
    Agree (ctx.evaluatePath path) (ctx.evaluatePath path') := by
  generalize hparse : parseSegments path = segments, hparse' : parseSegments path' = segments'
    at hread
  cases hread with
  | read segments =>
      rw [ctx.evaluatePath_eq_walk hparse ⟨first, by simp⟩,
        ctx.evaluatePath_eq_walk hparse' ⟨second, by simp⟩]
      exact agree_walkFrom_of_last_call hcalls _ segments
  | unread hcause hcause' =>
      rw [evaluatePath, evaluatePath, hparse, hparse']
      exact .failure (by simp [hcause, hcause'])

omit [Regex.Engine] hcalls in
/-- The keys of a broadcast are followed alike in front of the last call. -/
theorem agree_lead_bind {β : Type} {next : Lead → Attempt β} {value : Json} {taken : Nat}
    {next' : Lead → Attempt β} (segments : List Segment)
    (hnext : ∀ value taken rest, Agree (next ⟨value, taken, rest ++ [.call first]⟩)
      (next' ⟨value, taken, rest ++ [.call second]⟩)) :
    Agree (lead value taken (segments ++ [.call first]) >>= next)
      (lead value taken (segments ++ [.call second]) >>= next') := by
  induction segments generalizing value taken with
  | nil => exact hnext value taken []
  | cons segment rest ih =>
      cases segment with
      | call call => exact hnext value taken (.call call :: rest)
      | key name =>
          simp only [List.cons_append, lead]
          split
          · exact hnext value taken (.key name :: rest)
          · split
            · exact ih
            · exact .failure rfl

theorem agree_broadcast_of_endIn {body body' : String}
    (hread : EndIn first second (parseSegments body) (parseSegments body')) :
    Agree (ctx.broadcast body) (ctx.broadcast body') := by
  unfold broadcast
  generalize parseSegments body = segments, parseSegments body' = segments' at hread
  cases hread with
  | read segments =>
      rw [ofExcept_ok, ofExcept_ok, ok_bind, ok_bind]
      refine agree_lead_bind segments fun value taken rest => ?_
      have hbehind (call : Call) : (rest ++ [Segment.call call]).isEmpty = false := by simp
      have hitem (item : Json) : Agree (ctx.broadcastItem (rest ++ [.call first]) item)
          (ctx.broadcastItem (rest ++ [.call second]) item) := by
        rw [broadcastItem, broadcastItem, hbehind, hbehind]
        exact agree_walkFrom_of_last_call hcalls _ rest
      cases value with
      | arr items => exact (Agree.mapM items fun item _ => hitem item).bind fun _ => .refl _
      | _ => exact .failure rfl
  | unread hcause hcause' => exact .failure (by simp [hcause, hcause'])

end Segments

/-- Behind a path that opens no list, two calls that do the same to every value make queries that
are answered alike. -/
theorem agree_attempt_of_last_call {path : String} (hpath : openedList? path.toList = none)
    (hfirst : (Segment.call first).WellFormed ∧ (Segment.call first).Enclosed)
    (hsecond : (Segment.call second).WellFormed ∧ (Segment.call second).Enclosed)
    (hcalls : ∀ base, Agree (ctx.stepCall first base) (ctx.stepCall second base)) :
    Agree (ctx.attempt (path ++ "." ++ first.raw)) (ctx.attempt (path ++ "." ++ second.raw)) := by
  unfold attempt
  rcases leadsInto hpath with hform | ⟨body, hform⟩ | hform
  · rw [hform, hform]
    exact agree_evaluatePath_of_endIn hcalls (endIn_append hfirst hsecond path)
  · rw [hform, hform]
    exact agree_broadcast_of_endIn hcalls (endIn_append hfirst hsecond body)
  · rw [hform, hform]
    refine agree_broadcast_of_endIn hcalls ?_
    rw [parseSegments_call hfirst, parseSegments_call hsecond]
    exact .read []

end Context

end DotQuery

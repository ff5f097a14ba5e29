import DotQuery.Proofs.Attempt
import DotQuery.Proofs.Cut
import DotQuery.Proofs.Splitting

/-!
# Writing segments

A path is its segments joined by dots: keys as they are, calls as the name of the operator with the
argument in brackets. Reading a path splits it at the dots and tells calls from keys by their first
bracket, and both scans undo the writing: what is written is read back, and what has been read can
only have been written in one way.
-/

namespace DotQuery

namespace Query

/-! ### Calls as they are written -/

namespace Operator

variable {operator : Operator} {name : String}

theorem ofName?_eq_some_iff : ofName? name = some operator ↔ operator.name = name := by
  constructor
  · intro hfind
    simpa using List.find?_some hfind
  · rintro rfl
    cases operator <;> rfl

theorem name_plain (operator : Operator) :
    ∀ c ∈ operator.name.toList, c ≠ '.' ∧ isBracket c = false := by
  have hall : operator.name.toList.all (fun c => c != '.' && !isBracket c) = true := by
    cases operator <;> rfl
  simpa [List.all_eq_true] using hall

theorem bracket_not_mem_name (operator : Operator) : '(' ∉ operator.name.toList := by
  intro hmem
  exact absurd (operator.name_plain _ hmem).2 (by decide)

end Operator

namespace Call

def written (call : Call) : String :=
  call.operator.name ++ "(" ++ call.argument ++ ")"

theorem toList_written (call : Call) :
    call.written.toList =
      call.operator.name.toList ++ '(' :: (call.argument.toList ++ [')']) := by
  simp [written]

end Call

namespace Segment

/-- What every segment is that can be read: a key without a round bracket, or a call that is
written in its one way and has an argument if its operator needs one. -/
inductive WellFormed : Segment → Prop where
  | key {name : String} (hplain : '(' ∉ name.toList) : WellFormed (.key name)
  | call {call : Call} (hraw : call.raw = call.written)
      (hargument : Text.isAllBlank call.argument.toList = true →
        call.operator.argumentOptional = true) : WellFormed (.call call)

/-- The segment stays in one piece when its path is split: its brackets nest properly, and dots
stand inside them only. -/
def Enclosed : Segment → Prop
  | .key name => IsPiece '.' name.toList
  | .call c => Balanced c.argument.toList

end Segment

theorem parseSegment_key {text : List Char} (hplain : '(' ∉ text) :
    parseSegment text = .ok (.key (String.ofList text)) := by
  simp only [parseSegment, Text.cut?_singleton_eq_none_iff.mpr hplain]

theorem parseSegment_call (operator : Operator) {argument : List Char}
    (hargument : Text.isAllBlank argument = true → operator.argumentOptional = true) :
    parseSegment (operator.name.toList ++ '(' :: (argument ++ [')'])) =
      .ok (.call ⟨operator, String.ofList argument,
        String.ofList (operator.name.toList ++ '(' :: (argument ++ [')']))⟩) := by
  have hcut := Text.cut?_singleton_eq_some_iff.mpr
    ⟨(rfl : operator.name.toList ++ '(' :: (argument ++ [')']) = _), operator.bracket_not_mem_name⟩
  have hname : Operator.ofName? operator.name = some operator :=
    Operator.ofName?_eq_some_iff.mpr rfl
  have hdrop : Text.dropTrailing? [')'] (argument ++ [')']) = some argument :=
    Text.dropTrailing?_eq_some_iff.mpr rfl
  have hblank : (Text.isAllBlank argument && !operator.argumentOptional) = false := by
    cases hall : Text.isAllBlank argument with
    | false => rfl
    | true => rw [hargument hall]; rfl
  simp [parseSegment, hcut, hname, hdrop, hblank]

theorem exists_of_parseSegment_eq_ok {text : List Char} {segment : Segment}
    (hbracket : '(' ∈ text) (hparse : parseSegment text = .ok segment) :
    ∃ (operator : Operator) (argument : List Char),
      text = operator.name.toList ++ '(' :: (argument ++ [')']) ∧
      (Text.isAllBlank argument = true → operator.argumentOptional = true) := by
  obtain ⟨name, rest, rfl, hfirst⟩ := List.eq_append_cons_of_mem hbracket
  simp only [parseSegment, Text.cut?_singleton_eq_some_iff.mpr ⟨rfl, hfirst⟩] at hparse
  split at hparse
  · cases hparse
  · next operator hname =>
      split at hparse
      · cases hparse
      · next argument hdrop =>
          have hwritten : operator.name.toList = name := by
            rw [Operator.ofName?_eq_some_iff.mp hname, String.toList_ofList]
          refine ⟨operator, argument, ?_, fun hall => ?_⟩
          · rw [hwritten, Text.dropTrailing?_eq_some_iff.mp hdrop]
          · split at hparse
            · cases hparse
            · next hblank => simpa [hall] using hblank

/-- A segment is read exactly from its own text, and only if it is well formed. -/
theorem parseSegment_eq_ok_iff {text : List Char} {segment : Segment} :
    parseSegment text = .ok segment ↔ segment.WellFormed ∧ segment.text.toList = text := by
  constructor
  · intro hparse
    by_cases hbracket : '(' ∈ text
    · obtain ⟨operator, argument, rfl, hargument⟩ := exists_of_parseSegment_eq_ok hbracket hparse
      rw [parseSegment_call operator hargument] at hparse
      cases hparse
      refine ⟨.call ?_ ?_, String.toList_ofList⟩
      · rw [← String.toList_inj, Call.toList_written]
        simp only [String.toList_ofList]
      · rwa [String.toList_ofList]
    · rw [parseSegment_key hbracket] at hparse
      cases hparse
      refine ⟨.key ?_, String.toList_ofList⟩
      rwa [String.toList_ofList]
  · rintro ⟨hformed, rfl⟩
    cases hformed with
    | key hplain => simpa [Segment.text] using parseSegment_key hplain
    | @call call hraw hargument =>
        have hparse := parseSegment_call call.operator hargument
        rw [← Call.toList_written, ← hraw, String.ofList_toList, String.ofList_toList] at hparse
        exact hparse

/-! ### Paths as they are written -/

/-- The segments as they are written, joined by dots. -/
def pathText (segments : List Segment) : String :=
  String.ofList (['.'].intercalate (segments.map fun segment => segment.text.toList))

section Paths

variable {text : String} {segments : List Segment}

theorem mapM_parseSegment_eq_ok_iff {pieces : List (List Char)} :
    pieces.mapM parseSegment = .ok segments ↔
      (∀ segment ∈ segments, segment.WellFormed) ∧
        segments.map (fun segment => segment.text.toList) = pieces := by
  rw [Attempt.mapM_eq_ok_iff]
  constructor
  · intro hread
    induction hread with
    | nil => simp
    | cons hsegment _ ih =>
        obtain ⟨hformed, rfl⟩ := parseSegment_eq_ok_iff.mp hsegment
        exact ⟨List.forall_mem_cons.mpr ⟨hformed, ih.1⟩, by rw [List.map_cons, ih.2]⟩
  · rintro ⟨hformed, rfl⟩
    rw [List.forall₂_map_left_iff, List.forall₂_same]
    exact fun segment hmem => parseSegment_eq_ok_iff.mpr ⟨hformed segment hmem, rfl⟩

/-- A path is read into the segments whose texts are the pieces that it splits into. -/
theorem parseSegments_eq_ok_iff :
    parseSegments text = .ok segments ↔
      IsSplitting '.' text.toList (segments.map fun segment => segment.text.toList) ∧
        ∀ segment ∈ segments, segment.WellFormed := by
  have hdot : isBracket '.' = false := by decide
  rw [parseSegments, Attempt.bind_eq_ok_iff]
  simp only [splitOrFail_eq_ok_iff, split_eq_ok_iff hdot, mapM_parseSegment_eq_ok_iff]
  constructor
  · rintro ⟨_, hsplit, hformed, rfl⟩
    exact ⟨hsplit, hformed⟩
  · rintro ⟨hsplit, hformed⟩
    exact ⟨_, hsplit, hformed, rfl⟩

theorem IsPiece.append_plain {separator : Char} {front piece : List Char}
    (hfront : ∀ c ∈ front, c ≠ separator ∧ isBracket c = false) (hpiece : IsPiece separator piece) :
    IsPiece separator (front ++ piece) := by
  induction front with
  | nil => exact hpiece
  | cons c front ih =>
      rw [List.forall_mem_cons] at hfront
      exact (ih hfront.2).plain hfront.1.1 hfront.1.2

/-- A segment that is enclosed is one piece of the path that it is written in. -/
theorem isPiece_text {segment : Segment} (hformed : segment.WellFormed)
    (henclosed : segment.Enclosed) : IsPiece '.' segment.text.toList := by
  cases hformed with
  | key hplain => exact henclosed
  | @call call hraw hargument =>
      have hgroup : IsPiece '.' ('(' :: (call.argument.toList ++ ')' :: [])) :=
        IsPiece.nil.group (by decide) rfl henclosed
      rw [Segment.text, hraw, Call.toList_written]
      exact hgroup.append_plain call.operator.name_plain

/-- Segments that are well formed and enclosed are read back from the path that they are written
in. Conversely every path that can be read is what its segments are written as, and these are well
formed. -/
theorem parseSegments_pathText :
    (∀ segments : List Segment, segments ≠ [] →
      (∀ segment ∈ segments, segment.WellFormed ∧ segment.Enclosed) →
      parseSegments (pathText segments) = .ok segments) ∧
    ∀ text segments, parseSegments text = .ok segments →
      pathText segments = text ∧ ∀ segment ∈ segments, segment.WellFormed := by
  refine ⟨fun segments hne hsegments => ?_, fun text segments hparse => ?_⟩
  · rw [parseSegments_eq_ok_iff]
    refine ⟨⟨by simpa using hne, ?_, ?_⟩, fun segment hmem => (hsegments segment hmem).1⟩
    · rw [pathText, String.toList_ofList]
    · intro piece hmem
      obtain ⟨segment, hsegment, rfl⟩ := List.mem_map.mp hmem
      exact isPiece_text (hsegments segment hsegment).1 (hsegments segment hsegment).2
  · obtain ⟨hsplit, hformed⟩ := parseSegments_eq_ok_iff.mp hparse
    refine ⟨?_, hformed⟩
    rw [pathText, hsplit.join, String.ofList_toList]

/-- Dots in the brackets of a key and of an argument, and an empty key behind them. -/
theorem parseSegments_pathText_nested :
    parseSegments "a[x.y].age(YY, (b.c))." =
        .ok [.key "a[x.y]", .call ⟨.age, "YY, (b.c)", "age(YY, (b.c))"⟩, .key ""] ∧
      pathText [.key "a[x.y]", .call ⟨.age, "YY, (b.c)", "age(YY, (b.c))"⟩, .key ""] =
        "a[x.y].age(YY, (b.c))." := by
  have hkey : IsPiece '.' "a[x.y]".toList :=
    .plain (by decide) rfl (.group rfl rfl (by decide : Balanced "x.y".toList) .nil)
  have hargument : Balanced "YY, (b.c)".toList := by decide
  have hread := parseSegments_pathText.1
    [.key "a[x.y]", .call ⟨.age, "YY, (b.c)", "age(YY, (b.c))"⟩, .key ""]
    (List.cons_ne_nil _ _) (by
      simp only [List.forall_mem_cons, List.not_mem_nil, false_imp_iff, implies_true, and_true]
      exact ⟨⟨.key (by decide), hkey⟩, ⟨.call rfl (by decide), hargument⟩,
        ⟨.key (by decide), .nil⟩⟩)
  exact ⟨hread, (parseSegments_pathText.2 _ _ hread).1⟩

end Paths

end Query

end DotQuery

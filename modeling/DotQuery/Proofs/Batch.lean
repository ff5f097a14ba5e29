import DotQuery.Proofs.AllOrNothing
import DotQuery.Proofs.JsonLines
import DotQuery.Proofs.ReadValues

/-!
# Batches

Documents are answered one after the other, and each answer is written on a line of its own: its
compact text holds no line feed, and it is never blank. So the lines that are written stand for the
documents in order, and reading them gives the answers back. A document that cannot be answered is
named by its place.
-/

namespace DotQuery

open Calendar

/-! ### Lines of values -/

namespace Json

theorem line_feed_not_mem_write (value : Json) : '\n' ∉ value.write := by
  intro hfeed
  exact absurd (value.lacksControls_write '\n' hfeed) (by decide)

theorem getLast?_write_ne_return (value : Json) : value.write.getLast? ≠ some '\r' := by
  intro hreturn
  exact absurd (value.lacksControls_write '\r' (List.mem_of_getLast? hreturn)) (by decide)

/-- No value is printed as white space. -/
theorem trim_write_ne_nil (value : Json) : Text.trim value.write ≠ [] := by
  obtain ⟨c, others, hwrite, hc⟩ : ∃ c others, value.write = c :: others ∧
      Text.isBlank c = false := by
    cases value with
    | null => exact ⟨_, _, rfl, rfl⟩
    | bool value => cases value <;> exact ⟨_, _, rfl, rfl⟩
    | num number =>
        obtain ⟨c, others, hwrite, hc⟩ := exists_number_write_eq_cons number
        refine ⟨c, others, hwrite, ?_⟩
        rcases hc with rfl | hdigit
        · rfl
        · exact Text.not_blank_of_isDigit hdigit
    | str text => exact ⟨_, _, rfl, rfl⟩
    | arr items => exact ⟨_, _, rfl, rfl⟩
    | obj members => exact ⟨_, _, rfl, rfl⟩
  intro hblank
  have hall := Text.isBlank_of_trim_eq_nil hblank
  rw [hwrite] at hall
  rw [hall c List.mem_cons_self] at hc
  cases hc

end Json

namespace Document

variable {read : String → Option Json} {values : List Json}

theorem writtenLines_map_write (values : List Json) :
    writtenLines (values.map Json.write) = values.map Json.write := by
  rw [writtenLines, List.filter_eq_self]
  intro line hline
  obtain ⟨value, -, rfl⟩ := List.mem_map.mp hline
  simpa using value.trim_write_ne_nil

/-- The lines of values are read as the values if each line alone is. -/
theorem readLines_map_write_iff {number : Nat} :
    readLines read number (values.map Json.write) = .ok values ↔
      ∀ value ∈ values, read value.compact = some value := by
  rw [readLines_eq_ok_iff, writtenLines_map_write, List.map_map]
  exact List.map_inj_left

theorem fits_of_readLines {number : Nat} {lines : List (List Char)}
    (hread : readLines Json.read? number lines = .ok values) :
    ∀ value ∈ values, value.Fits Json.maxDepth := by
  intro value hvalue
  have hmem : some value ∈ (writtenLines lines).map (documentOn? Json.read?) := by
    rw [readLines_eq_ok_iff.mp hread]
    exact List.mem_map_of_mem hvalue
  obtain ⟨line, -, hline⟩ := List.mem_map.mp hmem
  exact Json.fits_of_read? hline

end Document

namespace Command

variable {plan : Plan} {now : Moment} {position : Nat} {document : Json}
  {documents answers before after : List Json} {failure : Failure AnswerError}

/-! ### Answers to several documents -/

section Engine

variable [Regex.Engine]

theorem answerAll_eq_ok_iff :
    answerAll plan now position documents = .ok answers ↔
      List.Forall₂ (fun document answer => plan.answer ⟨document, now⟩ = .ok answer)
        documents answers := by
  induction documents generalizing position answers with
  | nil =>
      rw [answerAll, List.forall₂_nil_left_iff]
      exact ⟨fun heq => (Except.ok.inj heq).symm, fun heq => congrArg Except.ok heq.symm⟩
  | cons document rest ih =>
      rw [answerAll, Attempt.bind_eq_ok_iff, List.forall₂_cons_left_iff]
      simp only [Attempt.mapError_eq_ok_iff, Attempt.bind_eq_ok_iff, ih]
      constructor
      · rintro ⟨answer, hanswer, later, hlater, heq⟩
        exact ⟨answer, later, hanswer, hlater, (Except.ok.inj heq).symm⟩
      · rintro ⟨answer, later, hanswer, hlater, rfl⟩
        exact ⟨answer, hanswer, later, hlater, rfl⟩

theorem exists_answerAll_eq_ok_iff :
    (∃ answers, answerAll plan now position documents = .ok answers) ↔
      ∀ document ∈ documents, ∃ answer, plan.answer ⟨document, now⟩ = .ok answer := by
  have hmapM : (∃ answers, (documents.mapM fun document => plan.answer ⟨document, now⟩) =
      .ok answers) ↔ ∀ document ∈ documents, ∃ answer, plan.answer ⟨document, now⟩ = .ok answer :=
    Attempt.exists_mapM_eq_ok_iff
  simpa only [answerAll_eq_ok_iff, Attempt.mapM_eq_ok_iff] using hmapM

/-- The first document that cannot be answered is named by its place. -/
theorem answerAll_of_failure
    (hbefore : ∀ earlier ∈ before, ∃ answer, plan.answer ⟨earlier, now⟩ = .ok answer)
    (hfailure : plan.answer ⟨document, now⟩ = .error failure) :
    answerAll plan now position (before ++ document :: after) =
      .error (failure.map (.failedDocument (position + before.length))) := by
  induction before generalizing position with
  | nil =>
      rw [List.nil_append, answerAll, hfailure]
      rfl
  | cons earlier rest ih =>
      rw [List.forall_mem_cons] at hbefore
      obtain ⟨answer, hanswer⟩ := hbefore.1
      have hplace : position + (earlier :: rest).length = position + 1 + rest.length := by
        rw [List.length_cons, Nat.add_comm rest.length, Nat.add_assoc]
      rw [List.cons_append, answerAll, hanswer, ih hbefore.2, hplace]
      rfl

end Engine

/-! ### A given time -/

section Given

variable {m : Type → Type} [Monad m] [LawfulMonad m] {α β ε δ : Type}

/-- Results that are there already are put together without doing anything. -/
theorem mk_pure_bind (result : Except ε α) (next : α → Except ε β) :
    ((ExceptT.mk (pure result) : ExceptT ε m α) >>= fun a => ExceptT.mk (pure (next a))) =
      ExceptT.mk (pure (result >>= next)) := by
  apply ExceptT.ext
  rw [ExceptT.run_bind, ExceptT.run_mk, pure_bind]
  cases result <;> rfl

theorem adapt_mk_pure (result : Except ε α) (f : ε → δ) :
    (ExceptT.mk (pure result) : ExceptT ε m α).adapt f = ExceptT.mk (pure (result.mapError f)) :=
  congrArg ExceptT.mk (map_pure _ _)

variable [Host m]

/-- At a given time a query does not look at the clock. -/
theorem queryTime_given_bind (now : Moment) (next : Moment → ExceptT ε m α) :
    ((queryTime (some now) : m Moment) : ExceptT ε m Moment) >>= next = next now := by
  apply ExceptT.ext
  simp [queryTime]

variable [Regex.Engine]

theorem foldlM_addFieldAt_given (rules : List Rule) (done : List (String × Json)) :
    rules.foldlM (addFieldAt (m := m) (some now) document) done =
      ExceptT.mk (pure ((rules.foldlM (RuleSet.addField ⟨document, now⟩) done).mapError
        (Failure.map .field))) := by
  induction rules generalizing done with
  | nil => rfl
  | cons rule rest ih =>
      rw [List.foldlM_cons, List.foldlM_cons, ← Attempt.bind_eq_mapError rfl fun _ => rfl,
        ← mk_pure_bind]
      simp only [ih, addFieldAt, queryTime_given_bind]

theorem answerAt_given (plan : Plan) (document : Json) :
    answerAt (m := m) plan (some now) document =
      ExceptT.mk (pure (plan.answer ⟨document, now⟩)) := by
  cases plan with
  | single query => exact queryTime_given_bind now _
  | fields rules =>
      rw [answerAt, foldlM_addFieldAt_given]
      exact mk_pure_bind _ fun members => .ok (Json.obj members)

/-- Where a time is given, all documents are answered at it. -/
theorem answerEach_given (plan : Plan) (position : Nat) (documents : List Json) :
    answerEach (m := m) plan (some now) position documents =
      ExceptT.mk (pure (answerAll plan now position documents)) := by
  induction documents generalizing position with
  | nil => rfl
  | cons document rest ih =>
      have hrest (answer : Json) :
          (ExceptT.mk (pure (answerAll plan now (position + 1) rest)) >>= fun answers =>
            pure (answer :: answers) : Step m (List Json)) =
          ExceptT.mk (pure (answerAll plan now (position + 1) rest >>= fun answers =>
            .ok (answer :: answers))) :=
        mk_pure_bind _ _
      rw [answerEach, answerAt_given, adapt_mk_pure, ih]
      simp only [hrest, mk_pure_bind]
      rfl

end Given

/-! ### Lines of answers -/

theorem toList_answersText (pretty : Bool) (answers : List Json) :
    (answersText .jsonLines pretty answers).toList =
      answers.flatMap fun answer => answer.write ++ ['\n'] := by
  induction answers with
  | nil => rfl
  | cons answer rest ih =>
      have hline : answerText .jsonLines pretty answer = answer.compact := by
        rw [answerText, Bool.and_comm]
        rfl
      rw [answersText, hline, String.toList_append, String.toList_append, ih, Json.compact,
        String.toList_ofList]
      rfl

theorem linesBetweenFeeds_answersText (pretty : Bool) (answers : List Json) :
    Text.linesBetweenFeeds (answersText .jsonLines pretty answers).toList =
      answers.map Json.write := by
  rw [toList_answersText]
  induction answers with
  | nil => rfl
  | cons answer rest ih =>
      rw [List.flatMap_cons, List.append_assoc, List.singleton_append,
        Text.linesBetweenFeeds_append_feed answer.line_feed_not_mem_write, ih,
        Text.withoutReturn_eq_self answer.getLast?_write_ne_return, List.map_cons]

/-- The lines that are written are read back if no value lies too deep or repeats a key. -/
theorem readAll_answersText_iff (pretty : Bool)
    (hnumbers : ∀ answer ∈ answers, answer.HoldsOnly Number.IsReadBack) :
    Document.readAll Json.read? .jsonLines (answersText .jsonLines pretty answers) = .ok answers ↔
      ∀ answer ∈ answers, answer.Fits Json.maxDepth := by
  rw [Document.readAll_jsonLines, linesBetweenFeeds_answersText, Document.readLines_map_write_iff]
  exact forall₂_congr fun answer hanswer => Json.read?_compact_eq_some_iff (hnumbers answer hanswer)

/-- Documents are written as they have been read. -/
theorem readAll_answersText_of_readAll {text : String} (pretty : Bool)
    (hnumbers : ∀ document ∈ documents, document.HoldsOnly Number.IsReadBack)
    (hread : Document.readAll Json.read? .jsonLines text = .ok documents) :
    Document.readAll Json.read? .jsonLines (answersText .jsonLines pretty documents) =
      .ok documents := by
  rw [Document.readAll_jsonLines] at hread
  exact (readAll_answersText_iff pretty hnumbers).mpr (Document.fits_of_readLines hread)

section Engine

variable [Regex.Engine]

/-- The text has a line for each document, which is the answer to it. -/
structure IsAligned (plan : Plan) (now : Moment) (documents answers : List Json) (text : String) :
    Prop where
  answered : List.Forall₂ (fun document answer => plan.answer ⟨document, now⟩ = .ok answer)
    documents answers
  ended : text.toList = answers.flatMap fun answer => answer.write ++ ['\n']
  lines : Text.linesBetweenFeeds text.toList = answers.map Json.write
  count : (Text.linesBetweenFeeds text.toList).length = documents.length
  readBack : ∀ read : String → Option Json, Document.readAll read .jsonLines text = .ok answers ↔
    ∀ answer ∈ answers, read answer.compact = some answer

theorem isAligned_answersText (pretty : Bool)
    (hanswers : answerAll plan now position documents = .ok answers) :
    IsAligned plan now documents answers (answersText .jsonLines pretty answers) := by
  have hanswered := answerAll_eq_ok_iff.mp hanswers
  have hlines := linesBetweenFeeds_answersText pretty answers
  refine ⟨hanswered, toList_answersText pretty answers, hlines, ?_, ?_⟩
  · rw [hlines, List.length_map, hanswered.length_eq]
  · intro read
    rw [Document.readAll_jsonLines, hlines]
    exact Document.readLines_map_write_iff

/-- A batch is answered if each of its documents can be, and then the lines that are written for it
are the answers in the order of the documents. If one document cannot be answered, it is named. This
is what the command does at a given time. -/
theorem answerAll_stays_aligned (plan : Plan) (now : Moment) (documents : List Json) :
    ((∃ answers, answerAll plan now 1 documents = .ok answers) ↔
      ∀ document ∈ documents, ∃ answer, plan.answer ⟨document, now⟩ = .ok answer) ∧
    (∀ answers, answerAll plan now 1 documents = .ok answers →
      ∀ (world : World) (place : Place) (pretty : Bool), ∃ text,
        world.perform (writeAnswers (m := StateM World) place .jsonLines pretty answers) =
          ((), world.append place text) ∧ IsAligned plan now documents answers text) ∧
    (∀ before document after failure, documents = before ++ document :: after →
      plan.answer ⟨document, now⟩ = .error failure →
      (∀ other ∈ before ++ after, ∃ answer, plan.answer ⟨other, now⟩ = .ok answer) →
      answerAll plan now 1 documents =
          .error (failure.map (.failedDocument (before.length + 1))) ∧
        ∀ error, (CommandError.failedDocument (before.length + 1) error).chain =
          ("Document " ++ toString (before.length + 1)) :: error.chain) ∧
    ∀ world : World,
      world.perform (answerEach (m := StateM World) plan (some now) 1 documents).run =
        (answerAll plan now 1 documents, world) := by
  refine ⟨exists_answerAll_eq_ok_iff, ?_, ?_, ?_⟩
  · intro answers hanswers world place pretty
    exact ⟨_, perform_writeAnswers world place .jsonLines pretty answers,
      isAligned_answersText pretty hanswers⟩
  · rintro before document after failure rfl hfailure hothers
    have hbefore := (List.forall_mem_append.mp hothers).1
    rw [answerAll_of_failure hbefore hfailure, Nat.add_comm]
    exact ⟨rfl, fun error => rfl⟩
  · intro world
    rw [answerEach_given]
    rfl

end Engine

open scoped Regex.Standard

/-- Null is an answer on a line of its own, and the line feed of a string ends none. -/
theorem answerAll_stays_aligned_nested :
    let world : World :=
      { place? := fun _ => none
        files := fun _ => none
        isWritable := fun _ => false
        standardInput := none
        environment := fun _ => none
        clock := fun _ => ⟨0, 0⟩
        canStart := fun _ => true
        standardOutput := "" }
    let plan := Plan.single "a"
    let answers : List Json := [.str "x\ny\r", .null, .obj [("b", .arr [.bool true, .arr []])]]
    let documents : List Json := answers.map fun answer => .obj [("a", answer)]
    let after := (world.perform
      (writeAnswers (m := StateM World) .standardOutput .jsonLines true answers)).2
    Document.readAll Json.read? .jsonLines after.standardOutput = .ok answers ∧
      answerAll plan ⟨0, 0⟩ 1 (documents ++ [.null]) =
        .error (.error (.failedDocument 4 (.query ⟨.noObjectPath "a", "a"⟩))) := by
  intro world plan answers documents after
  have hanswers : answerAll plan ⟨0, 0⟩ 1 documents = .ok answers := rfl
  have hnumbers : ∀ answer ∈ answers, answer.HoldsOnly Number.IsReadBack := by
    have hitems : (Json.arr [.bool true, .arr []]).HoldsOnly Number.IsReadBack :=
      .arr (List.forall_mem_cons.mpr ⟨.bool true, List.forall_mem_singleton.mpr (.arr nofun)⟩)
    have hmember : (Json.obj [("b", .arr [.bool true, .arr []])]).HoldsOnly Number.IsReadBack :=
      .obj (List.forall_mem_singleton.mpr hitems)
    intro answer hanswer
    simp only [answers, List.mem_cons, List.not_mem_nil, or_false] at hanswer
    rcases hanswer with rfl | rfl | rfl
    · exact .str _
    · exact .null
    · exact hmember
  have hfits : ∀ answer ∈ answers, answer.Fits Json.maxDepth := by
    have hitems : (Json.arr [.bool true, .arr []]).Fits 126 :=
      .arr (List.forall_mem_cons.mpr ⟨.bool true, List.forall_mem_singleton.mpr (.arr nofun)⟩)
    have hmember : (Json.obj [("b", .arr [.bool true, .arr []])]).Fits Json.maxDepth :=
      .obj (List.nodup_singleton _) (List.forall_mem_singleton.mpr hitems)
    intro answer hanswer
    simp only [answers, List.mem_cons, List.not_mem_nil, or_false] at hanswer
    rcases hanswer with rfl | rfl | rfl
    · exact .str _
    · exact .null
    · exact hmember
  constructor
  · obtain ⟨text, hperform, haligned⟩ := (answerAll_stays_aligned plan ⟨0, 0⟩ documents).2.1
      answers hanswers world .standardOutput true
    have hafter : after.standardOutput = "" ++ text :=
      congrArg (fun result => result.2.standardOutput) hperform
    rw [hafter, String.empty_append]
    exact (haligned.readBack Json.read?).mpr fun answer hanswer =>
      Json.read?_compact (hnumbers answer hanswer) (hfits answer hanswer)
  · have hothers := exists_answerAll_eq_ok_iff.mp ⟨answers, hanswers⟩
    rw [← List.append_nil documents] at hothers
    exact ((answerAll_stays_aligned plan ⟨0, 0⟩ (documents ++ [.null])).2.2.1 documents .null [] _
      rfl rfl hothers).1

end Command

end DotQuery

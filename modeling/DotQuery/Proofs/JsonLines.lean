import DotQuery.Document
import DotQuery.Json.Reader
import DotQuery.Proofs.Attempt
import DotQuery.Proofs.Numerals

/-!
# JSON Lines

The lines of a text are what stands between its line feeds, without the carriage return in front of
one, and the rest behind the last line feed if there is any. Each line that is not blank is read as
a document, and the first that cannot be read is named by its place among all lines. None of this
depends on how a document is read.
-/

namespace DotQuery

namespace Text

variable {line text first second : List Char}

/-- A line without a carriage return at its end. -/
def withoutReturn (line : List Char) : List Char :=
  (dropTrailing? ['\r'] line).getD line

/-- What stands between the line feeds of a text, and behind the last one if anything does. -/
def linesBetweenFeeds (text : List Char) : List (List Char) :=
  let parts := fields '\n' text
  parts.dropLast.map withoutReturn ++ (parts.getLast?.filter fun part => !part.isEmpty).toList

theorem withoutReturn_concat (line : List Char) : withoutReturn (line ++ ['\r']) = line := by
  rw [withoutReturn, dropTrailing?_eq_some_iff.mpr rfl, Option.getD_some]

theorem withoutReturn_eq_self (hlast : line.getLast? ≠ some '\r') : withoutReturn line = line := by
  have hnone : dropTrailing? ['\r'] line = none := by
    rw [Option.eq_none_iff_forall_ne_some]
    intro before hdrop
    rw [dropTrailing?_eq_some_iff.mp hdrop, List.getLast?_concat] at hlast
    exact hlast rfl
  rw [withoutReturn, hnone, Option.getD_none]

theorem withoutReturn_cons {c : Char} (hreturn : line = [] → c ≠ '\r') :
    withoutReturn (c :: line) = c :: withoutReturn line := by
  by_cases hlast : line.getLast? = some '\r'
  · obtain ⟨before, rfl⟩ := List.getLast?_eq_some_iff.mp hlast
    rw [← List.cons_append, withoutReturn_concat, withoutReturn_concat]
  · have hcons : (c :: line).getLast? ≠ some '\r' := by
      cases line with
      | nil => exact fun heq => hreturn rfl (Option.some.inj heq)
      | cons next rest => rwa [List.getLast?_cons_cons]
    rw [withoutReturn_eq_self hlast, withoutReturn_eq_self hcons]

/-! ### Where lines end -/

theorem lines_cons_feed (rest : List Char) : lines ('\n' :: rest) = [] :: lines rest := by
  rw [lines.eq_3]
  · rfl
  · rintro others ⟨⟩

/-- A carriage return in front of a line feed apart, a character goes to the line behind it. -/
theorem lines_cons {c : Char} {rest : List Char} (hfeed : c ≠ '\n')
    (hreturn : c = '\r' → rest.head? ≠ some '\n') :
    lines (c :: rest) = (c :: (lines rest).headD []) :: (lines rest).tail := by
  rw [lines.eq_3, if_neg hfeed]
  · cases lines rest <;> rfl
  · rintro others rfl rfl
    exact hreturn rfl rfl

theorem lines_append_feed (hplain : '\n' ∉ line) (rest : List Char) :
    lines (line ++ '\n' :: rest) = withoutReturn line :: lines rest := by
  induction line with
  | nil => exact lines_cons_feed rest
  | cons c others ih =>
      rw [List.mem_cons, not_or] at hplain
      by_cases hreturn : others = [] ∧ c = '\r'
      · obtain ⟨rfl, rfl⟩ := hreturn
        exact congrArg (· :: lines rest) (withoutReturn_concat []).symm
      · have hhead : c = '\r' → (others ++ '\n' :: rest).head? ≠ some '\n' := by
          rintro rfl
          cases others with
          | nil => exact absurd ⟨rfl, rfl⟩ hreturn
          | cons next more => exact fun heq => hplain.2 (by simp_all)
        rw [List.cons_append, lines_cons (Ne.symm hplain.1) hhead, ih hplain.2, List.headD_cons,
          List.tail_cons, withoutReturn_cons fun hnil heq => hreturn ⟨hnil, heq⟩]

theorem lines_of_not_mem (hplain : '\n' ∉ line) (hne : line ≠ []) : lines line = [line] := by
  induction line with
  | nil => exact absurd rfl hne
  | cons c others ih =>
      rw [List.mem_cons, not_or] at hplain
      have hhead : c = '\r' → others.head? ≠ some '\n' := by
        intro _ hfeed
        exact hplain.2 (List.mem_of_mem_head? hfeed)
      rw [lines_cons (Ne.symm hplain.1) hhead]
      cases others with
      | nil => rfl
      | cons next more => rw [ih hplain.2 (List.cons_ne_nil _ _), List.headD_cons, List.tail_cons]

/-- A text has no line feed, or it has a first one. -/
theorem feedInduction {motive : List Char → Prop}
    (last : ∀ line, '\n' ∉ line → motive line)
    (feed : ∀ line rest, '\n' ∉ line → motive rest → motive (line ++ '\n' :: rest))
    (text : List Char) : motive text := by
  induction hlength : text.length using Nat.strongRecOn generalizing text with
  | ind length ih =>
      by_cases hmem : '\n' ∈ text
      · obtain ⟨line, rest, rfl, hplain⟩ := List.eq_append_cons_of_mem hmem
        refine feed line rest hplain (ih rest.length ?_ rest rfl)
        rw [← hlength, List.length_append, List.length_cons]
        omega
      · exact last text hmem

theorem linesBetweenFeeds_append_feed (hplain : '\n' ∉ line) (rest : List Char) :
    linesBetweenFeeds (line ++ '\n' :: rest) = withoutReturn line :: linesBetweenFeeds rest := by
  have hparts : fields '\n' (line ++ '\n' :: rest) = line :: fields '\n' rest := by
    rw [fields, separate_append_cons hplain]
  have hne : fields '\n' rest ≠ [] := List.cons_ne_nil _ _
  rw [linesBetweenFeeds, hparts, List.dropLast_cons_of_ne_nil hne, List.getLast?_cons_of_ne_nil hne]
  rfl

theorem linesBetweenFeeds_of_not_mem (hplain : '\n' ∉ line) :
    linesBetweenFeeds line = if line = [] then [] else [line] := by
  have hparts : fields '\n' line = [line] := by rw [fields, separate_of_not_mem hplain]
  rw [linesBetweenFeeds, hparts]
  cases line <;> rfl

theorem lines_eq_linesBetweenFeeds (text : List Char) : lines text = linesBetweenFeeds text := by
  induction text using feedInduction with
  | last line hplain =>
      rw [linesBetweenFeeds_of_not_mem hplain]
      split
      · next hnil => rw [hnil, lines]
      · next hne => exact lines_of_not_mem hplain hne
  | feed line rest hplain ih =>
      rw [lines_append_feed hplain, linesBetweenFeeds_append_feed hplain, ih]

/-- A line feed between two texts adds nothing to their lines but perhaps an empty one. -/
theorem lines_append_feed_append (hlast : first.getLast? ≠ some '\r') (second : List Char) :
    ∃ empty, (∀ line ∈ empty, line = []) ∧
      lines (first ++ '\n' :: second) = lines first ++ (empty ++ lines second) := by
  induction first using feedInduction with
  | last line hplain =>
      rw [lines_append_feed hplain, withoutReturn_eq_self hlast]
      by_cases hnil : line = []
      · exact ⟨[[]], by simp, by rw [hnil, lines]; rfl⟩
      · exact ⟨[], by simp, by rw [lines_of_not_mem hplain hnil]; rfl⟩
  | feed line rest hplain ih =>
      have hrest : rest.getLast? ≠ some '\r' := by
        cases rest with
        | nil => exact nofun
        | cons c more =>
            rwa [List.getLast?_append_of_ne_nil _ (List.cons_ne_nil _ _),
              List.getLast?_cons_of_ne_nil (List.cons_ne_nil _ _)] at hlast
      obtain ⟨empty, hempty, hlines⟩ := ih hrest
      refine ⟨empty, hempty, ?_⟩
      rw [List.append_assoc, List.cons_append, lines_append_feed hplain, hlines,
        lines_append_feed hplain, List.cons_append]

end Text

namespace Document

variable {read : String → Option Json} {number : Nat} {line : List Char} {lines : List (List Char)}
  {document : Json} {documents : List Json} {error : DocumentError}

/-! ### Reading lines -/

def documentOn? (read : String → Option Json) (line : List Char) : Option Json :=
  read (String.ofList line)

/-- The lines that something stands on. -/
def writtenLines (lines : List (List Char)) : List (List Char) :=
  lines.filter fun line => Text.trim line ≠ []

theorem mem_writtenLines_iff : line ∈ writtenLines lines ↔ line ∈ lines ∧ Text.trim line ≠ [] := by
  simp [writtenLines]

theorem writtenLines_cons_blank (hblank : Text.trim line = []) :
    writtenLines (line :: lines) = writtenLines lines :=
  List.filter_cons_of_neg (by simpa using hblank)

theorem writtenLines_cons (hblank : Text.trim line ≠ []) :
    writtenLines (line :: lines) = line :: writtenLines lines :=
  List.filter_cons_of_pos (by simpa using hblank)

theorem readLines_blank (hblank : Text.trim line = []) :
    readLines read number (line :: lines) = readLines read (number + 1) lines := by
  rw [readLines, if_pos (Text.trim_eq_nil_iff.mp hblank)]

theorem readLines_unread (hblank : Text.trim line ≠ []) (hread : documentOn? read line = none) :
    readLines read number (line :: lines) = .error (.invalidLine number) := by
  rw [documentOn?] at hread
  rw [readLines, if_neg (mt Text.trim_eq_nil_iff.mpr hblank), hread]

theorem readLines_document (hblank : Text.trim line ≠ [])
    (hread : documentOn? read line = some document) :
    readLines read number (line :: lines) =
      readLines read (number + 1) lines >>= fun documents => .ok (document :: documents) := by
  rw [documentOn?] at hread
  rw [readLines, if_neg (mt Text.trim_eq_nil_iff.mpr hblank), hread]
  rfl

/-- A document is read from each line that is not blank. -/
theorem readLines_eq_ok_iff :
    readLines read number lines = .ok documents ↔
      (writtenLines lines).map (documentOn? read) = documents.map some := by
  induction lines generalizing number documents with
  | nil => cases documents <;> simp [readLines, writtenLines]
  | cons line rest ih =>
      by_cases hblank : Text.trim line = []
      · rw [readLines_blank hblank, ih, writtenLines_cons_blank hblank]
      · rw [writtenLines_cons hblank, List.map_cons, eq_comm (a := documentOn? read line :: _),
          List.map_eq_cons_iff]
        cases hread : documentOn? read line with
        | none =>
            rw [readLines_unread hblank hread]
            simp
        | some document =>
            rw [readLines_document hblank hread, Attempt.bind_eq_ok_iff]
            simp [ih, eq_comm, and_comm]

theorem readLines_cons_eq_error_iff
    (hpasses : Text.trim line ≠ [] → ∃ document, documentOn? read line = some document) :
    readLines read number (line :: lines) = .error error ↔
      readLines read (number + 1) lines = .error error := by
  by_cases hblank : Text.trim line = []
  · rw [readLines_blank hblank]
  · obtain ⟨document, hread⟩ := hpasses hblank
    rw [readLines_document hblank hread, Attempt.bind_eq_error_iff, or_iff_left]
    rintro ⟨documents, -, ⟨⟩⟩

/-- Reading stops at the first line that is neither blank nor a document, and names its place. -/
theorem exists_of_readLines_eq_error (herror : readLines read number lines = .error error) :
    ∃ before line after, lines = before ++ line :: after ∧
      (∀ earlier ∈ writtenLines before, ∃ document, documentOn? read earlier = some document) ∧
      Text.trim line ≠ [] ∧ documentOn? read line = none ∧
      error = .invalidLine (number + before.length) := by
  induction lines generalizing number with
  | nil => cases herror
  | cons line rest ih =>
      by_cases hpasses : Text.trim line ≠ [] → ∃ document, documentOn? read line = some document
      · obtain ⟨before, bad, after, rfl, hbefore, hblank, hread, rfl⟩ :=
          ih ((readLines_cons_eq_error_iff hpasses).mp herror)
        refine ⟨line :: before, bad, after, rfl, ?_, hblank, hread, ?_⟩
        · intro earlier hmem
          rw [mem_writtenLines_iff, List.mem_cons] at hmem
          obtain ⟨rfl | hmem, hearlier⟩ := hmem
          · exact hpasses hearlier
          · exact hbefore earlier (mem_writtenLines_iff.mpr ⟨hmem, hearlier⟩)
        · rw [List.length_cons, Nat.add_comm before.length, ← Nat.add_assoc]
      · rw [Classical.not_imp, ← Option.ne_none_iff_exists', not_not] at hpasses
        rw [readLines_unread hpasses.1 hpasses.2] at herror
        exact ⟨[], line, rest, rfl, nofun, hpasses.1, hpasses.2, (Except.error.inj herror).symm⟩

theorem exists_readLines_eq_ok_iff :
    (∃ documents, readLines read number lines = .ok documents) ↔
      ∀ line ∈ writtenLines lines, ∃ document, documentOn? read line = some document := by
  constructor
  · rintro ⟨documents, hread⟩ line hmem
    have hmap : documentOn? read line ∈ documents.map some := by
      rw [← readLines_eq_ok_iff.mp hread]
      exact List.mem_map_of_mem hmem
    obtain ⟨document, -, hdocument⟩ := List.mem_map.mp hmap
    exact ⟨document, hdocument.symm⟩
  · intro hlines
    cases hread : readLines read number lines with
    | ok documents => exact ⟨documents, rfl⟩
    | error error =>
        obtain ⟨before, bad, after, rfl, -, hblank, hnone, -⟩ := exists_of_readLines_eq_error hread
        obtain ⟨document, hdocument⟩ := hlines bad (mem_writtenLines_iff.mpr ⟨by simp, hblank⟩)
        cases hnone.symm.trans hdocument

/-! ### Texts -/

variable {text first second : String} {firstDocuments secondDocuments : List Json}

theorem readAll_jsonLines (text : String) :
    readAll read .jsonLines text = readLines read 1 (Text.linesBetweenFeeds text.toList) := by
  rw [readAll, Text.lines_eq_linesBetweenFeeds]

theorem writtenLines_append_feed (hlast : first.toList.getLast? ≠ some '\r') :
    writtenLines (Text.linesBetweenFeeds (first ++ "\n" ++ second).toList) =
      writtenLines (Text.linesBetweenFeeds first.toList) ++
        writtenLines (Text.linesBetweenFeeds second.toList) := by
  obtain ⟨empty, hempty, hlines⟩ := Text.lines_append_feed_append hlast second.toList
  have hnone : writtenLines empty = [] := by
    rw [writtenLines, List.filter_eq_nil_iff]
    rintro line hmem
    rw [hempty line hmem]
    decide
  have htext : (first ++ "\n" ++ second).toList = first.toList ++ '\n' :: second.toList := by simp
  simp only [← Text.lines_eq_linesBetweenFeeds]
  rw [htext, hlines, writtenLines, List.filter_append, List.filter_append]
  exact congrArg (_ ++ ·) (congrArg (· ++ _) hnone)

/-- A text is read line by line. It can be read exactly if there is a document on each line that is
not blank, and these are its documents in order; otherwise the first line without one is named by
its place, blank lines counted. So texts can be read one behind the other. -/
theorem readAll_line_by_line (read : String → Option Json) :
    (∀ text : String, ((∃ documents, readAll read .jsonLines text = .ok documents) ↔
        ∀ line ∈ writtenLines (Text.linesBetweenFeeds text.toList),
          ∃ document, documentOn? read line = some document) ∧
      (∀ documents, readAll read .jsonLines text = .ok documents →
        (writtenLines (Text.linesBetweenFeeds text.toList)).map (documentOn? read) =
          documents.map some) ∧
      ∀ error, readAll read .jsonLines text = .error error →
        ∃ before line after, Text.linesBetweenFeeds text.toList = before ++ line :: after ∧
          (∀ earlier ∈ writtenLines before, ∃ document, documentOn? read earlier = some document) ∧
          Text.trim line ≠ [] ∧ documentOn? read line = none ∧
          error = .invalidLine (before.length + 1) ∧
          error.message = "Input: Invalid JSON on line " ++ toString (before.length + 1)) ∧
    ∀ (first second : String) firstDocuments secondDocuments,
      readAll read .jsonLines first = .ok firstDocuments →
      readAll read .jsonLines second = .ok secondDocuments → first.toList.getLast? ≠ some '\r' →
      readAll read .jsonLines (first ++ "\n" ++ second) =
        .ok (firstDocuments ++ secondDocuments) := by
  simp only [readAll_jsonLines]
  refine ⟨fun text => ⟨exists_readLines_eq_ok_iff, fun documents => readLines_eq_ok_iff.mp, ?_⟩, ?_⟩
  · intro error herror
    obtain ⟨before, line, after, hlines, hbefore, hblank, hread, rfl⟩ :=
      exists_of_readLines_eq_error herror
    rw [Nat.add_comm]
    exact ⟨before, line, after, hlines, hbefore, hblank, hread, rfl, rfl⟩
  · intro first second firstDocuments secondDocuments hfirst hsecond hlast
    rw [readLines_eq_ok_iff] at hfirst hsecond ⊢
    rw [writtenLines_append_feed hlast, List.map_append, List.map_append, hfirst, hsecond]

/-- The line behind a blank one is the third, and a carriage return that ends a text is white space
of its last document. -/
theorem readAll_line_by_line_blank :
    (∃ before line after, Text.linesBetweenFeeds "1\r\n \nx\n2".toList = before ++ line :: after ∧
        documentOn? Json.read? line = none ∧
        DocumentError.invalidLine 3 = .invalidLine (before.length + 1)) ∧
      readAll Json.read? .jsonLines ("true\n" ++ "\n" ++ "null\r") =
        .ok ([.bool true] ++ [.null]) := by
  have herror : readAll Json.read? .jsonLines "1\r\n \nx\n2" = .error (.invalidLine 3) := rfl
  obtain ⟨before, line, after, hlines, -, -, hread, hplace, -⟩ :=
    ((readAll_line_by_line Json.read?).1 _).2.2 _ herror
  exact ⟨⟨before, line, after, hlines, hread, hplace⟩,
    (readAll_line_by_line Json.read?).2 "true\n" "null\r" _ _ rfl rfl (by decide)⟩

end Document

end DotQuery

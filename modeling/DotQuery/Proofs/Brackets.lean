import DotQuery.Query.Splitting

/-!
# Balanced texts

The grammar of texts whose round and square brackets nest properly, beside the scan that keeps the
closing brackets it awaits on a stack. A balanced text leaves the stack as it was; conversely the
scan only ends well on a text that is made of balanced parts and the brackets awaited between them.
-/

namespace DotQuery.Query

/-- The brackets of the text nest properly and every group is closed. -/
inductive Balanced : List Char → Prop where
  | nil : Balanced []
  | plain {c : Char} {text : List Char} (hplain : isBracket c = false) (htext : Balanced text) :
      Balanced (c :: text)
  | group {opener closer : Char} {body text : List Char} (hopener : closer? opener = some closer)
      (hbody : Balanced body) (htext : Balanced text) :
      Balanced (opener :: (body ++ closer :: text))

/-- A bracket, a balanced text and the bracket that closes the first one. -/
def IsGroup (text : List Char) : Prop :=
  ∃ opener closer body, closer? opener = some closer ∧ Balanced body ∧
    text = opener :: (body ++ [closer])

/-! ### Single characters -/

section Characters

variable {c opener closer : Char} {awaited : List Char}

theorem closer?_eq_some_iff :
    closer? opener = some closer ↔
      opener = '(' ∧ closer = ')' ∨ opener = '[' ∧ closer = ']' := by
  unfold closer?
  split <;> simp_all [eq_comm]

theorem isBracket_opener (hopener : closer? opener = some closer) : isBracket opener = true := by
  rcases closer?_eq_some_iff.mp hopener with ⟨rfl, -⟩ | ⟨rfl, -⟩ <;> rfl

theorem isBracket_closer (hopener : closer? opener = some closer) : isBracket closer = true := by
  rcases closer?_eq_some_iff.mp hopener with ⟨-, rfl⟩ | ⟨-, rfl⟩ <;> rfl

theorem closer?_closer (hopener : closer? opener = some closer) : closer? closer = none := by
  rcases closer?_eq_some_iff.mp hopener with ⟨-, rfl⟩ | ⟨-, rfl⟩ <;> rfl

theorem closer?_of_not_isBracket (hplain : isBracket c = false) : closer? c = none := by
  cases hcloser : closer? c with
  | none => rfl
  | some closer =>
      rw [isBracket_opener hcloser] at hplain
      cases hplain

theorem not_opener_of_not_isBracket (hplain : isBracket c = false) : closer? c ≠ some closer := by
  rw [closer?_of_not_isBracket hplain]
  exact nofun

theorem not_opener_closer {closer' : Char} (hopener : closer? opener = some closer) :
    closer? closer ≠ some closer' := by
  rw [closer?_closer hopener]
  exact nofun

theorem await?_opener (hopener : closer? opener = some closer) (awaited : List Char) :
    await? awaited opener = some (closer :: awaited) := by
  simp only [await?, hopener]

theorem await?_plain (hplain : isBracket c = false) (awaited : List Char) :
    await? awaited c = some awaited := by
  simp [await?, closer?_of_not_isBracket hplain, hplain]

theorem await?_closer (hopener : closer? opener = some closer) (outer : List Char) :
    await? (closer :: outer) closer = some outer := by
  simp [await?, closer?_closer hopener, isBracket_closer hopener]

/-- A character that is read opens a group, stands for itself or closes the innermost group. -/
theorem await?_eq_some {following : List Char} (hawait : await? awaited c = some following) :
    (∃ closer, closer? c = some closer ∧ following = closer :: awaited) ∨
      isBracket c = false ∧ following = awaited ∨ awaited = c :: following := by
  cases hcloser : closer? c with
  | some closer =>
      rw [await?_opener hcloser] at hawait
      exact Or.inl ⟨closer, rfl, (Option.some.inj hawait).symm⟩
  | none =>
      cases hbracket : isBracket c with
      | false =>
          rw [await?_plain hbracket] at hawait
          exact Or.inr (Or.inl ⟨rfl, (Option.some.inj hawait).symm⟩)
      | true =>
          cases awaited with
          | nil => simp [await?, hcloser, hbracket] at hawait
          | cons closer outer =>
              simp only [await?, hcloser, hbracket, ↓reduceIte, Option.ite_none_right_eq_some,
                Option.some.injEq] at hawait
              obtain ⟨rfl, rfl⟩ := hawait
              exact Or.inr (Or.inr rfl)

end Characters

/-! ### Putting balanced texts together -/

theorem group_append (opener closer : Char) (body text rest : List Char) :
    opener :: (body ++ closer :: text) ++ rest = opener :: (body ++ closer :: (text ++ rest)) := by
  rw [List.cons_append, List.append_assoc, List.cons_append]

namespace Balanced

variable {c opener closer : Char} {body text first second : List Char}

theorem append (hfirst : Balanced first) (hsecond : Balanced second) :
    Balanced (first ++ second) := by
  induction hfirst with
  | nil => exact hsecond
  | plain hplain _ ih => exact .plain hplain ih
  | group hopener hbody _ _ ih =>
      rw [group_append]
      exact .group hopener hbody ih

theorem of_cons_plain (hplain : isBracket c = false) (hbalanced : Balanced (c :: text)) :
    Balanced text := by
  cases hbalanced with
  | plain _ htext => exact htext
  | group hopener _ _ => exact absurd hopener (not_opener_of_not_isBracket hplain)

theorem of_append_plain (hplain : ∀ c ∈ first, isBracket c = false)
    (hbalanced : Balanced (first ++ second)) : Balanced second := by
  induction first with
  | nil => exact hbalanced
  | cons c first ih =>
      rw [List.forall_mem_cons] at hplain
      exact ih hplain.2 (hbalanced.of_cons_plain hplain.1)

/-- A balanced text that begins with an opening bracket begins with its group. -/
theorem exists_of_cons_opener (hopener : closer? opener = some closer)
    (hbalanced : Balanced (opener :: text)) :
    ∃ body rest, text = body ++ closer :: rest ∧ Balanced body ∧ Balanced rest := by
  cases hbalanced with
  | plain hplain _ => exact absurd hopener (not_opener_of_not_isBracket hplain)
  | group hopener' hbody htext =>
      cases hopener.symm.trans hopener'
      exact ⟨_, _, rfl, hbody, htext⟩

theorem not_cons_closer (hopener : closer? opener = some closer) :
    ¬Balanced (closer :: text) := by
  intro hbalanced
  cases hbalanced with
  | plain hplain _ =>
      rw [isBracket_closer hopener] at hplain
      cases hplain
  | group hopener' _ _ => exact absurd hopener' (not_opener_closer hopener)

/-- The first closing bracket that a balanced text leaves unmatched is determined. -/
theorem append_closer_inj {first' rest rest' : List Char} {opener' closer' : Char}
    (hopener : closer? opener = some closer) (hopener' : closer? opener' = some closer')
    (hfirst : Balanced first) (hfirst' : Balanced first')
    (heq : first ++ closer :: rest = first' ++ closer' :: rest') :
    first = first' ∧ closer = closer' ∧ rest = rest' := by
  induction hfirst generalizing first' rest rest' opener opener' closer closer' with
  | nil =>
      cases first' with
      | nil => simpa using heq
      | cons c first' =>
          obtain ⟨rfl, -⟩ := List.cons.inj heq
          exact absurd hfirst' (not_cons_closer hopener)
  | @plain c text hplain _ ih =>
      cases first' with
      | nil =>
          obtain ⟨rfl, -⟩ := List.cons.inj heq
          rw [isBracket_closer hopener'] at hplain
          cases hplain
      | cons c' first' =>
          obtain ⟨rfl, htail⟩ := List.cons.inj heq
          obtain ⟨rfl, rfl, rfl⟩ := ih hopener hopener' (hfirst'.of_cons_plain hplain) htail
          exact ⟨rfl, rfl, rfl⟩
  | @group openerG closerG body text hopenerG _ _ ihBody ihText =>
      cases first' with
      | nil =>
          obtain ⟨rfl, -⟩ := List.cons.inj heq
          exact absurd hopenerG (not_opener_closer hopener')
      | cons c' first' =>
          rw [group_append, List.cons_append] at heq
          obtain ⟨rfl, htail⟩ := List.cons.inj heq
          obtain ⟨body', text', rfl, hbody', htext'⟩ := hfirst'.exists_of_cons_opener hopenerG
          rw [List.append_assoc, List.cons_append] at htail
          obtain ⟨rfl, -, hbehind⟩ := ihBody hopenerG hopenerG hbody' htail
          obtain ⟨rfl, rfl, rfl⟩ := ihText hopener hopener' htext' hbehind
          exact ⟨rfl, rfl, rfl⟩

end Balanced

/-! ### Reading with a stack of awaited brackets -/

/-- The awaited brackets stand in the text in turn, each behind a balanced part, and `rest` is what
follows the last of them. -/
inductive Closes : List Char → List Char → List Char → Prop where
  | done (rest : List Char) : Closes [] rest rest
  | next {closer : Char} {body awaited text rest : List Char} (hbody : Balanced body)
      (htext : Closes awaited text rest) :
      Closes (closer :: awaited) (body ++ closer :: text) rest

section Reading

variable {c : Char} {awaited following text rest body : List Char}

/-- What is balanced can be put in front of a text that closes. -/
theorem Closes.prepend (hbody : Balanced body) (hcloses : Closes awaited text rest) :
    ∃ rest', Closes awaited (body ++ text) rest' ∧ (Balanced rest → Balanced rest') := by
  cases hcloses with
  | done => exact ⟨_, .done _, hbody.append⟩
  | @next closer body' awaited text rest hbody' htext =>
      refine ⟨rest, ?_, id⟩
      rw [← List.append_assoc]
      exact .next (hbody.append hbody') htext

theorem Closes.cons (hawait : await? awaited c = some following)
    (hcloses : Closes following text rest) :
    ∃ rest', Closes awaited (c :: text) rest' ∧ (Balanced rest → Balanced rest') := by
  rcases await?_eq_some hawait with ⟨closer, hopener, rfl⟩ | ⟨hplain, rfl⟩ | rfl
  · cases hcloses with
    | @next closer body awaited text rest hbody htext =>
        have hgroup : Balanced (c :: (body ++ [closer])) := .group hopener hbody .nil
        simpa using Closes.prepend hgroup htext
  · exact Closes.prepend (.plain hplain .nil) hcloses
  · exact ⟨rest, .next .nil hcloses, id⟩

theorem closesAll_append (hbody : Balanced body) (awaited text : List Char) :
    closesAll awaited (body ++ text) = closesAll awaited text := by
  induction hbody generalizing awaited text with
  | nil => rfl
  | plain hplain _ ih =>
      cases awaited with
      | nil => simp [closesAll]
      | cons closer outer =>
          rw [List.cons_append, closesAll, await?_plain hplain]
          exact ih _ _
  | group hopener _ _ ihBody ihText =>
      cases awaited with
      | nil => simp [closesAll]
      | cons closer outer =>
          rw [group_append, closesAll, await?_opener hopener]
          dsimp only
          rw [ihBody, closesAll, await?_closer hopener]
          exact ihText _ _

theorem closesAll_group {opener closer : Char} (hopener : closer? opener = some closer)
    (hbody : Balanced body) (rest : List Char) :
    closesAll [closer] (body ++ closer :: rest) = true := by
  rw [closesAll_append hbody, closesAll, await?_closer hopener]
  simp [closesAll]

theorem exists_closes_of_closesAll (hcloses : closesAll awaited text = true) :
    ∃ rest, Closes awaited text rest := by
  induction text generalizing awaited with
  | nil =>
      cases awaited with
      | nil => exact ⟨[], .done []⟩
      | cons closer outer => cases hcloses
  | cons c text ih =>
      cases awaited with
      | nil => exact ⟨c :: text, .done _⟩
      | cons closer outer =>
          rw [closesAll] at hcloses
          cases hawait : await? (closer :: outer) c with
          | none => simp [hawait] at hcloses
          | some following =>
              obtain ⟨rest, hrest⟩ := ih (by simpa [hawait] using hcloses)
              obtain ⟨rest', hcons, -⟩ := hrest.cons hawait
              exact ⟨rest', hcons⟩

/-- A text starts a group exactly if some complete group is a prefix of it. -/
theorem startsGroup_eq_true_iff :
    startsGroup text = true ↔ ∃ group, IsGroup group ∧ group <+: text := by
  constructor
  · intro hstarts
    cases text with
    | nil => cases hstarts
    | cons c text =>
        cases hopener : closer? c with
        | none => simp [startsGroup, hopener] at hstarts
        | some closer =>
            obtain ⟨rest, hcloses⟩ :=
              exists_closes_of_closesAll (by simpa [startsGroup, hopener] using hstarts)
            cases hcloses with
            | @next _ body _ text _ hbody htext =>
                refine ⟨c :: (body ++ [closer]), ⟨c, closer, body, hopener, hbody, rfl⟩, text, ?_⟩
                simp
  · rintro ⟨_, ⟨opener, closer, body, hopener, hbody, rfl⟩, rest, rfl⟩
    simp only [List.cons_append, List.append_assoc, startsGroup, hopener]
    exact closesAll_group hopener hbody rest

theorem closesExactly_append (hbody : Balanced body) (awaited text : List Char) :
    closesExactly awaited (body ++ text) = closesExactly awaited text := by
  induction hbody generalizing awaited text with
  | nil => rfl
  | plain hplain _ ih =>
      rw [List.cons_append, closesExactly, await?_plain hplain]
      exact ih _ _
  | group hopener _ _ ihBody ihText =>
      rw [group_append, closesExactly, await?_opener hopener]
      dsimp only
      rw [ihBody, closesExactly, await?_closer hopener]
      exact ihText _ _

theorem exists_closes_of_closesExactly (hcloses : closesExactly awaited text = true) :
    ∃ rest, Closes awaited text rest ∧ Balanced rest := by
  induction text generalizing awaited with
  | nil =>
      cases awaited with
      | nil => exact ⟨[], .done [], .nil⟩
      | cons closer outer => cases hcloses
  | cons c text ih =>
      rw [closesExactly] at hcloses
      cases hawait : await? awaited c with
      | none => simp [hawait] at hcloses
      | some following =>
          obtain ⟨rest, hrest, hbalanced⟩ := ih (by simpa [hawait] using hcloses)
          obtain ⟨rest', hcons, hbalanced'⟩ := hrest.cons hawait
          exact ⟨rest', hcons, hbalanced' hbalanced⟩

theorem isBalanced_eq_true_iff : isBalanced text = true ↔ Balanced text := by
  constructor
  · intro hcloses
    obtain ⟨rest, hrest, hbalanced⟩ := exists_closes_of_closesExactly hcloses
    cases hrest
    exact hbalanced
  · intro hbalanced
    have happend := closesExactly_append hbalanced [] []
    rwa [List.append_nil] at happend

instance (text : List Char) : Decidable (Balanced text) :=
  decidable_of_iff (isBalanced text = true) isBalanced_eq_true_iff

end Reading

end DotQuery.Query

import DotQuery.Evaluation.Attempt
import Mathlib.Data.List.Forall2

/-!
# Outcomes of attempts

Two attempts agree if they give the same value or fail with the same kind of failure. Agreement
passes through sequencing and through the items of a list, which is how whole evaluations are
compared. The remaining laws say when a sequence of attempts succeeds and where it stops; they hold
whatever an attempt fails with, and so also of the checks that are made without a document.
-/

namespace DotQuery

open Query

/-- What is left of a failure when its wording is forgotten. -/
def Failure.kind (failure : Failure Cause) : Failure Kind :=
  failure.map Cause.kind

@[simp]
theorem Failure.kind_error (cause : Cause) :
    (Failure.error cause).kind = .error cause.kind := rfl

@[simp]
theorem Failure.kind_overflow : (Failure.overflow : Failure Cause).kind = .overflow := rfl

theorem Failure.exists_eq_error {failure : Failure Cause} {kind : Kind}
    (hkind : failure.kind = .error kind) :
    ∃ cause, failure = .error cause ∧ cause.kind = kind := by
  cases failure with
  | overflow => cases hkind
  | error cause => exact ⟨cause, rfl, Failure.error.inj hkind⟩

namespace Attempt

variable {ε α β γ : Type}

@[simp]
theorem ok_bind (a : α) (next : α → Except ε β) :
    ((Except.ok a : Except ε α) >>= next) = next a := rfl

@[simp]
theorem error_bind (failure : ε) (next : α → Except ε β) :
    ((Except.error failure : Except ε α) >>= next) = .error failure := rfl

theorem bind_eq_ok_iff {attempt : Except ε α} {next : α → Except ε β} {b : β} :
    attempt >>= next = .ok b ↔ ∃ a, attempt = .ok a ∧ next a = .ok b := by
  cases attempt with
  | error failure => simp
  | ok a => simp

theorem bind_eq_error_iff {attempt : Except ε α} {next : α → Except ε β} {failure : ε} :
    attempt >>= next = .error failure ↔
      attempt = .error failure ∨ ∃ a, attempt = .ok a ∧ next a = .error failure := by
  cases attempt with
  | error found => simp
  | ok a => simp

/-- A failure stays the same before another next step that fails wherever the first one does. -/
theorem bind_eq_error_of_imp {attempt : Except ε α} {next : α → Except ε β}
    {next' : α → Except ε γ} {failure : ε} (hbind : attempt >>= next = .error failure)
    (hnext : ∀ a, next a = .error failure → next' a = .error failure) :
    attempt >>= next' = .error failure := by
  rw [bind_eq_error_iff] at hbind ⊢
  rcases hbind with hattempt | ⟨a, hattempt, hfailure⟩
  · exact Or.inl hattempt
  · exact Or.inr ⟨a, hattempt, hnext a hfailure⟩

@[simp]
theorem ofExcept_ok (a : α) : ofExcept (.ok a) = .ok a := rfl

@[simp]
theorem ofExcept_error (cause : Cause) :
    (ofExcept (.error cause) : Attempt α) = .error (.error cause) := rfl

theorem ofExcept_eq_ok_iff {result : Except Cause α} {a : α} :
    ofExcept result = .ok a ↔ result = .ok a := by
  cases result <;> simp

@[simp]
theorem ofOption_some (cause : Cause) (a : α) : ofOption cause (some a) = .ok a := rfl

@[simp]
theorem ofOption_none (cause : Cause) :
    (ofOption cause none : Attempt α) = .error (.error cause) := rfl

theorem ofOption_eq_ok_iff {cause : Cause} {option : Option α} {a : α} :
    ofOption cause option = .ok a ↔ option = some a := by
  cases option <;> simp

/-- The same value, or the same kind of failure. -/
inductive Agree : Attempt α → Attempt α → Prop where
  | value (a : α) : Agree (.ok a) (.ok a)
  | failure {left right : Failure Cause} (hkind : left.kind = right.kind) :
      Agree (.error left) (.error right)

namespace Agree

variable {left right : Attempt α}

@[refl]
theorem refl (attempt : Attempt α) : Agree attempt attempt := by
  cases attempt with
  | error failure => exact .failure rfl
  | ok a => exact .value a

theorem symm (hagree : Agree left right) : Agree right left := by
  cases hagree with
  | value a => exact .value a
  | failure hkind => exact .failure hkind.symm

theorem trans {middle : Attempt α} (hagree : Agree left middle) (hother : Agree middle right) :
    Agree left right := by
  cases hagree with
  | value a => exact hother
  | failure hkind =>
      cases hother with
      | failure hkind' => exact .failure (hkind.trans hkind')

theorem ok_iff (hagree : Agree left right) {a : α} : left = .ok a ↔ right = .ok a := by
  cases hagree with
  | value b => rfl
  | failure hkind => simp

theorem isOk_iff (hagree : Agree left right) :
    (∃ a, left = .ok a) ↔ ∃ a, right = .ok a :=
  exists_congr fun _ => hagree.ok_iff

theorem exists_error (hagree : Agree left right) {found : Failure Cause}
    (hleft : left = .error found) :
    ∃ failure, right = .error failure ∧ failure.kind = found.kind := by
  cases hagree with
  | value a => cases hleft
  | failure hkind =>
      cases hleft
      exact ⟨_, rfl, hkind.symm⟩

theorem exists_cause (hagree : Agree left right) {cause : Cause}
    (hleft : left = .error (.error cause)) :
    ∃ found, right = .error (.error found) ∧ found.kind = cause.kind := by
  obtain ⟨failure, hright, hkind⟩ := hagree.exists_error hleft
  obtain ⟨found, rfl, hfound⟩ := Failure.exists_eq_error hkind
  exact ⟨found, hright, hfound⟩

theorem bind {leftNext rightNext : α → Attempt β} (hagree : Agree left right)
    (hnext : ∀ a, Agree (leftNext a) (rightNext a)) :
    Agree (left >>= leftNext) (right >>= rightNext) := by
  cases hagree with
  | value a => exact hnext a
  | failure hkind => exact .failure hkind

theorem mapM {leftStep rightStep : α → Attempt β} (items : List α)
    (hstep : ∀ item ∈ items, Agree (leftStep item) (rightStep item)) :
    Agree (items.mapM leftStep) (items.mapM rightStep) := by
  induction items with
  | nil => exact refl _
  | cons item rest ih =>
      rw [List.forall_mem_cons] at hstep
      rw [List.mapM_cons, List.mapM_cons]
      exact hstep.1.bind fun value => (ih hstep.2).bind fun values => refl _

end Agree

/-- A list of attempts succeeds with the values that its items give one by one. -/
theorem mapM_eq_ok_iff {step : α → Except ε β} {items : List α} {values : List β} :
    items.mapM step = .ok values ↔
      List.Forall₂ (fun item value => step item = .ok value) items values := by
  induction items generalizing values with
  | nil =>
      rw [List.mapM_nil, List.forall₂_nil_left_iff]
      exact ⟨fun h => (Except.ok.inj h).symm, fun h => h ▸ rfl⟩
  | cons item rest ih =>
      simp only [List.mapM_cons, bind_eq_ok_iff, List.forall₂_cons_left_iff, ih]
      constructor
      · rintro ⟨value, hvalue, later, hlater, hvalues⟩
        exact ⟨value, later, hvalue, hlater, (Except.ok.inj hvalues).symm⟩
      · rintro ⟨value, later, hvalue, hlater, rfl⟩
        exact ⟨value, hvalue, later, hlater, rfl⟩

theorem forall_mem_of_mapM_eq_ok {step : α → Except ε β} {items : List α} {values : List β}
    {p : β → Prop} (hvalues : items.mapM step = .ok values)
    (hstep : ∀ item ∈ items, ∀ value, step item = .ok value → p value) :
    ∀ value ∈ values, p value := by
  have hpairs := mapM_eq_ok_iff.mp hvalues
  clear hvalues
  induction hpairs with
  | nil => exact fun _ hmem => absurd hmem List.not_mem_nil
  | cons hvalue _ ih =>
      rw [List.forall_mem_cons] at hstep ⊢
      exact ⟨hstep.1 _ hvalue, ih hstep.2⟩

theorem mapM_ok (items : List α) :
    items.mapM (fun item => (.ok item : Except ε α)) = .ok items :=
  mapM_eq_ok_iff.mpr (List.forall₂_same.mpr fun _ _ => rfl)

theorem exists_mapM_eq_ok_iff {step : α → Except ε β} {items : List α} :
    (∃ values, items.mapM step = .ok values) ↔
      ∀ item ∈ items, ∃ value, step item = .ok value := by
  induction items with
  | nil => exact ⟨fun _ item hmem => absurd hmem List.not_mem_nil, fun _ => ⟨[], rfl⟩⟩
  | cons item rest ih =>
      rw [List.forall_mem_cons, ← ih]
      simp only [mapM_eq_ok_iff, List.forall₂_cons_left_iff]
      constructor
      · rintro ⟨_, value, later, hvalue, hlater, rfl⟩
        exact ⟨⟨value, hvalue⟩, later, hlater⟩
      · rintro ⟨⟨value, hvalue⟩, later, hlater⟩
        exact ⟨_, value, later, hvalue, hlater, rfl⟩

/-- A list of attempts fails as its first failing item does. -/
theorem exists_of_mapM_eq_error {step : α → Except ε β} {items : List α}
    {failure : ε} (herror : items.mapM step = .error failure) :
    ∃ before item after, items = before ++ item :: after ∧
      (∀ earlier ∈ before, ∃ value, step earlier = .ok value) ∧
      step item = .error failure := by
  induction items with
  | nil => cases herror
  | cons item rest ih =>
      rw [List.mapM_cons, bind_eq_error_iff] at herror
      rcases herror with hitem | ⟨value, hitem, hlater⟩
      · exact ⟨[], item, rest, rfl, by simp, hitem⟩
      · rw [bind_eq_error_iff] at hlater
        rcases hlater with hrest | ⟨values, -, hpure⟩
        · obtain ⟨before, stop, after, rfl, hbefore, hstop⟩ := ih hrest
          refine ⟨item :: before, stop, after, rfl, ?_, hstop⟩
          exact List.forall_mem_cons.mpr ⟨⟨value, hitem⟩, hbefore⟩
        · cases hpure

theorem mapM_eq_error_iff {step : α → Except ε β} {items : List α} {failure : ε} :
    items.mapM step = .error failure ↔ ∃ before item after, items = before ++ item :: after ∧
      (∀ earlier ∈ before, ∃ value, step earlier = .ok value) ∧ step item = .error failure := by
  refine ⟨exists_of_mapM_eq_error, ?_⟩
  rintro ⟨before, item, after, rfl, hbefore, hitem⟩
  obtain ⟨values, hvalues⟩ := exists_mapM_eq_ok_iff.mpr hbefore
  rw [List.mapM_append, hvalues, ok_bind, List.mapM_cons, hitem]
  rfl

theorem mapM_congr {step step' : α → Except ε β} {items : List α}
    (hstep : ∀ item ∈ items, step item = step' item) : items.mapM step = items.mapM step' := by
  induction items with
  | nil => rfl
  | cons item rest ih =>
      rw [List.forall_mem_cons] at hstep
      rw [List.mapM_cons, List.mapM_cons, hstep.1, ih hstep.2]

/-- A list of checks succeeds if each of them does. -/
theorem forM_eq_ok_iff {step : α → Except ε Unit} {items : List α} :
    items.forM step = .ok () ↔ ∀ item ∈ items, step item = .ok () := by
  induction items with
  | nil => exact ⟨fun _ item hmem => absurd hmem List.not_mem_nil, fun _ => rfl⟩
  | cons item rest ih =>
      have hcons : (item :: rest).forM step = step item >>= fun _ => rest.forM step := rfl
      rw [List.forall_mem_cons, hcons, bind_eq_ok_iff, ← ih]
      exact ⟨fun ⟨_, hitem, hrest⟩ => ⟨hitem, hrest⟩, fun ⟨hitem, hrest⟩ => ⟨(), hitem, hrest⟩⟩

/-! ### Failures in other words -/

section Wording

variable {δ : Type} {f : ε → δ} {attempt : Except ε α} {result : Except δ α}

/-- Two sequences fail alike, up to the words, if their steps do. -/
theorem bind_eq_mapError {next : α → Except ε β} {next' : α → Except δ β}
    (hresult : result = attempt.mapError f) (hnext : ∀ a, next' a = (next a).mapError f) :
    result >>= next' = (attempt >>= next).mapError f := by
  rw [hresult]
  cases attempt with
  | error failure => rfl
  | ok a => exact hnext a

theorem mapM_eq_mapError {step : α → Except ε β} {step' : α → Except δ β}
    (hstep : ∀ item, step' item = (step item).mapError f) (items : List α) :
    items.mapM step' = (items.mapM step).mapError f := by
  induction items with
  | nil => rfl
  | cons item rest ih =>
      rw [List.mapM_cons, List.mapM_cons]
      exact bind_eq_mapError (hstep item) fun value => bind_eq_mapError ih fun values => rfl

theorem mapError_eq_ok_iff {a : α} : attempt.mapError f = .ok a ↔ attempt = .ok a := by
  cases attempt <;> simp [Except.mapError]

theorem mapError_eq_error_iff {failure : δ} :
    attempt.mapError f = .error failure ↔ ∃ found, attempt = .error found ∧ f found = failure := by
  cases attempt <;> simp [Except.mapError]

end Wording

/-! ### Attempts at a query -/

section Query

variable {query : String} {attempt : Attempt α}

theorem inQuery_eq_ok_iff {a : α} : attempt.inQuery query = .ok a ↔ attempt = .ok a := by
  cases attempt <;> simp [inQuery, Except.mapError]

theorem inQuery_eq_error_iff {e : QueryError} :
    attempt.inQuery query = .error (.error e) ↔
      attempt = .error (.error e.cause) ∧ e.query = query := by
  obtain ⟨cause, text⟩ := e
  rcases attempt with (found | _) | a <;>
    simp [inQuery, Except.mapError, Failure.map, eq_comm]

theorem inQuery_eq_overflow_iff :
    attempt.inQuery query = .error .overflow ↔ attempt = .error .overflow := by
  rcases attempt with (found | _) | a <;> simp [inQuery, Except.mapError, Failure.map]

end Query

end Attempt

end DotQuery

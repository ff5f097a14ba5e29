import DotQuery.Proofs.Provenance
import DotQuery.Proofs.WrittenDate

/-!
# Where an evaluation is given up

All operators but the two on dates settle on a value or a cause. These two are given up at the first
date that leaves the calendar, and the walk, the broadcast and the list that run into it are given
up with them; nothing else gives an evaluation up.
-/

namespace DotQuery

open Query Attempt Calendar

namespace Attempt

variable {α β : Type} {attempt : Attempt α}

/-- The attempt gives a value or fails for a cause. -/
def Settles (attempt : Attempt α) : Prop :=
  attempt ≠ .error .overflow

namespace Settles

theorem ok (a : α) : Settles (.ok a) := nofun

theorem fail (cause : Cause) : Settles (fail cause : Attempt α) := nofun

theorem ofOption (cause : Cause) (option : Option α) : Settles (ofOption cause option) := by
  cases option <;> exact nofun

theorem ofExcept (result : Except Cause α) : Settles (ofExcept result) := by
  cases result <;> exact nofun

theorem bind {next : α → Attempt β} (hattempt : Settles attempt)
    (hnext : ∀ a, Settles (next a)) : Settles (attempt >>= next) := by
  intro hoverflow
  rcases bind_eq_error_iff.mp hoverflow with hfirst | ⟨a, -, hsecond⟩
  · exact hattempt hfirst
  · exact hnext a hsecond

theorem mapM {step : α → Attempt β} (hstep : ∀ a, Settles (step a)) (items : List α) :
    Settles (items.mapM step) := by
  intro hoverflow
  obtain ⟨-, item, -, -, -, hitem⟩ := mapM_eq_error_iff.mp hoverflow
  exact hstep item hitem

/-- What settles and is followed by something is only given up there. -/
theorem bind_eq_overflow_iff {next : α → Attempt β} (hattempt : Settles attempt) :
    attempt >>= next = .error .overflow ↔
      ∃ a, attempt = .ok a ∧ next a = .error .overflow := by
  rw [bind_eq_error_iff, or_iff_right hattempt]

/-- What is followed by nothing that can be given up is given up itself. -/
theorem bind_eq_overflow_iff_left {next : α → Attempt β} (hnext : ∀ a, Settles (next a)) :
    attempt >>= next = .error .overflow ↔ attempt = .error .overflow := by
  rw [bind_eq_error_iff, or_iff_left]
  rintro ⟨a, -, hoverflow⟩
  exact hnext a hoverflow

end Settles

end Attempt

/-! ### Operators that settle -/

section Operators

variable (ctx : Context) (call : Call) (base : Option Json)

theorem settles_sequence : Settles (Operators.sequence call base) :=
  .ofOption _ _

theorem settles_numbers : Settles (Operators.numbers call base) :=
  (settles_sequence call base).bind fun _ => .ofOption _ _

theorem settles_numericDefault : Settles (Operators.numericDefault call) := by
  unfold Operators.numericDefault
  dsimp only
  split
  · exact .ok _
  · split
    · exact .ok _
    · exact .fail _

theorem settles_map : Settles (Operators.map call base) :=
  (settles_sequence call base).bind fun items =>
    (Settles.mapM (fun _ => .ofOption _ _) items).bind fun _ => .ok _

theorem settles_filter : Settles (Operators.filter call base) :=
  (settles_sequence call base).bind fun _ => (Settles.ofExcept _).bind fun _ => .ok _

theorem settles_mean : Settles (Operators.mean call base) :=
  (settles_numbers call base).bind fun _ => (settles_numericDefault call).bind fun _ => .ok _

theorem settles_extremum (find : List Binary64 → Option Binary64) :
    Settles (Operators.extremum find call base) := by
  refine (settles_numbers call base).bind fun values => ?_
  cases find values with
  | some value => exact .ok _
  | none => exact (settles_numericDefault call).bind fun _ => .ok _

variable [Regex.Engine]

theorem settles_regex : Settles (Operators.regex call base) := by
  unfold Operators.regex
  split
  · split
    · exact .ok _
    · exact .fail _
  · exact .fail _

variable {call} in
theorem settles_apply (hdate : ¬(call.operator = .age ∨ call.operator = .date)) :
    Settles (Operators.apply ctx call base) := by
  unfold Operators.apply
  cases hoperator : call.operator with
  | count => exact (settles_sequence call base).bind fun _ => .ok _
  | map => exact settles_map call base
  | filter => exact settles_filter call base
  | sum => exact (settles_sequence call base).bind fun _ => .ok _
  | mean => exact settles_mean call base
  | min => exact settles_extremum call base _
  | max => exact settles_extremum call base _
  | range => exact (settles_numbers call base).bind fun _ => .ok _
  | unique => exact (settles_sequence call base).bind fun _ => .ok _
  | «exists» => exact .ok _
  | default => exact .ok _
  | age => exact absurd (Or.inl hoperator) hdate
  | date => exact absurd (Or.inr hoperator) hdate
  | regex => exact settles_regex call base

end Operators

/-! ### Dates that leave the calendar -/

namespace Dates

variable {ctx : Context} {call : Call} {base value : Option Json} {unit : DateUnit} {now : Moment}

theorem instantOf_eq_overflow_iff {cause : Cause} :
    instantOf cause value = .error .overflow ↔ ∃ v, value = some v ∧ LeavesCalendar v := by
  cases value with
  | none => simp [instantOf, Attempt.fail]
  | some v =>
      simp only [Option.some.injEq, exists_eq_left', ← ofJson?_eq_error_iff]
      unfold instantOf
      rw [Option.map_some]
      rcases Instant.ofJson? v with ⟨⟩ | (_ | t) <;> simp [Attempt.fail]

/-- The reference date of the call leaves the calendar. -/
def ReferenceLeaves (ctx : Context) (call : Call) : Prop :=
  ∃ path value, reference? call.argument = some path ∧ ctx.root.lookupPath? path = some value ∧
    LeavesCalendar value

theorem referenceMoment_eq_overflow_iff :
    referenceMoment ctx call = .error .overflow ↔ ReferenceLeaves ctx call := by
  unfold referenceMoment ReferenceLeaves
  split
  · next hnone => simp [hnone]
  · next path hpath =>
      rw [Settles.bind_eq_overflow_iff_left, instantOf_eq_overflow_iff]
      · simp [hpath]
      · exact fun _ => .ok _

theorem stamp_eq_overflow_iff :
    stamp call unit now value = .error .overflow ↔ ∃ v, value = some v ∧ LeavesCalendar v := by
  unfold stamp
  rw [Settles.bind_eq_overflow_iff_left, instantOf_eq_overflow_iff]
  intro t
  split
  · exact .ok _
  · exact (Settles.ofOption _ _).bind fun _ => .ok _

/-- The call reads a date that leaves the calendar: the reference date, or else the value that it is
applied to, or the first of its items that gives no answer. -/
inductive ReadsOutside (ctx : Context) (call : Call) : Option Json → Prop where
  | reference {base : Option Json} {unit : DateUnit} (hunit : unit? call.argument = some unit)
      (hleaves : ReferenceLeaves ctx call) : ReadsOutside ctx call base
  | value {unit : DateUnit} {now : Moment} {value : Json}
      (hunit : unit? call.argument = some unit) (hnow : referenceMoment ctx call = .ok now)
      (hleaves : LeavesCalendar value) : ReadsOutside ctx call (some value)
  | item {unit : DateUnit} {now : Moment} {before after : List Json} {value : Json}
      (hunit : unit? call.argument = some unit) (hnow : referenceMoment ctx call = .ok now)
      (hbefore : ∀ earlier ∈ before, ∃ answer, stamp call unit now (some earlier) = .ok answer)
      (hleaves : LeavesCalendar value) :
      ReadsOutside ctx call (some (.arr (before ++ value :: after)))

theorem stamps_eq_overflow_iff :
    (match base with
      | some (.arr items) => do
        return .arr (← items.mapM fun item => stamp call unit now (some item))
      | value => stamp call unit now value : Attempt Json) = .error .overflow ↔
      (∃ v, base = some v ∧ LeavesCalendar v) ∨ ∃ before v after,
        base = some (.arr (before ++ v :: after)) ∧
        (∀ earlier ∈ before, ∃ answer, stamp call unit now (some earlier) = .ok answer) ∧
        LeavesCalendar v := by
  split
  · next items =>
      rw [Settles.bind_eq_overflow_iff_left, mapM_eq_error_iff, or_iff_right]
      · simp only [stamp_eq_overflow_iff, Option.some.injEq, exists_eq_left', Json.arr.injEq]
      · rintro ⟨_, ⟨⟩, _, _, ⟨⟩, -⟩
      · exact fun _ => .ok _
  · next value hvalue =>
      rw [stamp_eq_overflow_iff, or_iff_left]
      rintro ⟨before, v, after, rfl, -⟩
      exact hvalue _ rfl

theorem evaluate_eq_overflow_iff :
    evaluate ctx call base = .error .overflow ↔ ReadsOutside ctx call base := by
  unfold evaluate
  rw [Settles.bind_eq_overflow_iff (.ofOption _ _)]
  simp only [ofOption_eq_ok_iff, bind_eq_error_iff, referenceMoment_eq_overflow_iff]
  constructor
  · rintro ⟨unit, hunit, hreference | ⟨now, hnow, hoverflow⟩⟩
    · exact .reference hunit hreference
    · rcases stamps_eq_overflow_iff.mp hoverflow with ⟨v, rfl, hleaves⟩ |
        ⟨before, v, after, rfl, hbefore, hleaves⟩
      · exact .value hunit hnow hleaves
      · exact .item hunit hnow hbefore hleaves
  · rintro (⟨hunit, hreference⟩ | ⟨hunit, hnow, hleaves⟩ | ⟨hunit, hnow, hbefore, hleaves⟩)
    · exact ⟨_, hunit, .inl hreference⟩
    · exact ⟨_, hunit, .inr ⟨_, hnow, stamps_eq_overflow_iff.mpr (.inl ⟨_, rfl, hleaves⟩)⟩⟩
    · exact ⟨_, hunit, .inr ⟨_, hnow,
        stamps_eq_overflow_iff.mpr (.inr ⟨_, _, _, rfl, hbefore, hleaves⟩)⟩⟩

end Dates

/-! ### Walks -/

namespace Context

variable {ctx : Context} {call : Call} {current base : Option Json} {segments : List Segment}

theorem settles_checkMember (key : String) (next : Option Segment) (member : Option Json) :
    Settles (checkMember key next member) := by
  unfold checkMember
  split
  · split
    · exact .fail _
    · split
      · exact .fail _
      · exact .ok _
  · split
    · exact .fail _
    · exact .ok _
  · exact .ok _

theorem settles_stepKey (parent : Option Json) (key : String) (next : Option Segment) :
    Settles (stepKey parent key next) := by
  unfold stepKey
  split
  · exact .fail _
  · exact .fail _
  · exact .fail _
  · exact settles_checkMember key next _

theorem settles_lead (value : Json) (taken : Nat) (segments : List Segment) :
    Settles (lead value taken segments) := by
  induction segments generalizing value taken with
  | nil => exact .ok _
  | cons segment rest ih =>
      cases segment with
      | call call => exact .ok _
      | key name =>
          unfold lead
          split
          · exact .ok _
          · split
            · exact ih _ _
            · exact .fail _

section Engine

variable [Regex.Engine]

theorem stepCall_eq_overflow_iff :
    ctx.stepCall call base = .error .overflow ↔
      (call.operator = .age ∨ call.operator = .date) ∧ Dates.ReadsOutside ctx call base := by
  by_cases hdate : call.operator = .age ∨ call.operator = .date
  · have hstep : ctx.stepCall call base = Dates.evaluate ctx call base := by
      rcases hdate with hoperator | hoperator <;>
        simp [stepCall, Operators.apply, Operator.toleratesAbsent, hoperator]
    rw [hstep, Dates.evaluate_eq_overflow_iff, and_iff_right hdate]
  · rw [iff_false_right fun h => hdate h.1]
    unfold stepCall
    split
    · exact Settles.fail _
    · exact settles_apply ctx base hdate

/-- The walk over the segments comes to a call that reads a date outside the calendar. -/
def WalksOutside (ctx : Context) (current : Option Json) (segments : List Segment) : Prop :=
  ∃ before call after base, segments = before ++ .call call :: after ∧
    ctx.reach current before = .ok base ∧ (call.operator = .age ∨ call.operator = .date) ∧
    Dates.ReadsOutside ctx call base

theorem walkFrom_eq_overflow_iff :
    ctx.walkFrom current segments = .error .overflow ↔ ctx.WalksOutside current segments := by
  constructor
  · intro hoverflow
    induction segments generalizing current with
    | nil => exact absurd hoverflow (Settles.ofOption _ _)
    | cons segment rest ih =>
        cases segment with
        | call call =>
            rcases bind_eq_error_iff.mp hoverflow with hcall | ⟨value, hcall, hrest⟩
            · exact ⟨[], call, rest, current, rfl, rfl, stepCall_eq_overflow_iff.mp hcall⟩
            · obtain ⟨before, stop, after, base, rfl, hreach, hstop⟩ := ih hrest
              refine ⟨.call call :: before, stop, after, base, rfl, ?_, hstop⟩
              rw [reach, hcall, ok_bind, hreach]
        | key name =>
            obtain ⟨value, hkey, hrest⟩ :=
              (Settles.bind_eq_overflow_iff (settles_stepKey current name rest.head?)).mp hoverflow
            obtain ⟨before, stop, after, base, rfl, hreach, hstop⟩ := ih hrest
            refine ⟨.key name :: before, stop, after, base, rfl, ?_, hstop⟩
            have hcut : stepKey current name before.head? = .ok value := by
              cases before with
              | nil => exact stepKey_none_of_eq_ok hkey
              | cons next before => exact hkey
            rw [reach, hcut, ok_bind, hreach]
  · rintro ⟨before, call, after, base, rfl, hreach, houtside⟩
    have hcall := stepCall_eq_overflow_iff.mpr houtside
    have hagree := ctx.agree_walkFrom_append current before (.call call :: after)
    rw [hreach, ok_bind, walkFrom, hcall] at hagree
    obtain ⟨failure, hfailure, hkind⟩ := hagree.symm.exists_error rfl
    cases failure with
    | error cause => cases hkind
    | overflow => exact hfailure

theorem exists_call_of_walksOutside (houtside : ctx.WalksOutside current segments) :
    ∃ call, .call call ∈ segments := by
  obtain ⟨before, call, after, base, rfl, -⟩ := houtside
  exact ⟨call, by simp⟩

/-! ### Queries -/

/-- The path can be read and the walk over it reads a date outside the calendar. -/
def PathOutside (ctx : Context) (path : String) : Prop :=
  ∃ segments, parseSegments path = .ok segments ∧ ctx.WalksOutside (some ctx.root) segments

theorem evaluatePath_eq_overflow_iff {path : String} :
    ctx.evaluatePath path = .error .overflow ↔ ctx.PathOutside path := by
  constructor
  · intro hoverflow
    obtain ⟨segments, hparse, hvalue⟩ :=
      (Settles.bind_eq_overflow_iff (.ofExcept _)).mp hoverflow
    split at hvalue
    · exact ⟨segments, ofExcept_eq_ok_iff.mp hparse, walkFrom_eq_overflow_iff.mp hvalue⟩
    · exact absurd hvalue (Settles.ofOption _ _)
  · rintro ⟨segments, hparse, houtside⟩
    rw [ctx.evaluatePath_eq_walk hparse (exists_call_of_walksOutside houtside)]
    exact walkFrom_eq_overflow_iff.mpr houtside

theorem broadcastItem_eq_overflow_iff {item : Json} :
    ctx.broadcastItem segments item = .error .overflow ↔
      ctx.WalksOutside (some (.arr [item])) segments := by
  unfold broadcastItem
  split
  · next hempty =>
      rw [List.isEmpty_iff.mp hempty]
      constructor
      · rintro ⟨⟩
      · intro houtside
        obtain ⟨call, hmem⟩ := exists_call_of_walksOutside houtside
        cases hmem
  · exact walkFrom_eq_overflow_iff

/-- A broadcast comes to an element over which its walk reads a date outside the calendar, and all
elements before it have an answer. -/
def BroadcastOutside (ctx : Context) (body : String) : Prop :=
  ∃ keys rest before item after, parseSegments body = .ok (keys.map .key ++ rest) ∧
    ctx.root.LeadsTo keys (before ++ item :: after) ∧
    (∀ earlier ∈ before, ∃ value, ctx.broadcastItem rest earlier = .ok value) ∧
    ctx.WalksOutside (some (.arr [item])) rest

theorem broadcast_eq_overflow_iff {body : String} :
    ctx.broadcast body = .error .overflow ↔ ctx.BroadcastOutside body := by
  constructor
  · intro hoverflow
    obtain ⟨segments, hparse, hfollow⟩ :=
      (Settles.bind_eq_overflow_iff (.ofExcept _)).mp hoverflow
    obtain ⟨found, hlead, hitems⟩ :=
      (Settles.bind_eq_overflow_iff (settles_lead _ _ _)).mp hfollow
    obtain ⟨keys, rfl, -, hleads⟩ := exists_keys_of_lead hlead
    split at hitems
    · next items hfound =>
        have hmapM : items.mapM (ctx.broadcastItem found.rest) = .error .overflow :=
          (Settles.bind_eq_overflow_iff_left fun _ => .ok _).mp hitems
        obtain ⟨before, item, after, rfl, hbefore, hitem⟩ := mapM_eq_error_iff.mp hmapM
        exact ⟨keys, found.rest, before, item, after, ofExcept_eq_ok_iff.mp hparse,
          hleads _ hfound, hbefore, broadcastItem_eq_overflow_iff.mp hitem⟩
    · exact absurd hitems (Settles.fail _)
  · rintro ⟨keys, rest, before, item, after, hparse, hleads, hbefore, houtside⟩
    have hmapM : (before ++ item :: after).mapM (ctx.broadcastItem rest) = .error .overflow :=
      mapM_eq_error_iff.mpr ⟨before, item, after, rfl, hbefore,
        broadcastItem_eq_overflow_iff.mpr houtside⟩
    rw [ctx.broadcast_eq_mapM hparse hleads, hmapM]
    rfl

/-- A list comes to an item that is a path and reads a date outside the calendar, and all items
before it are numbers. -/
def ListOutside (ctx : Context) (body : String) : Prop :=
  ∃ before item after, parseItems body = .ok (before ++ item :: after) ∧
    (∀ earlier ∈ before, ∃ number, ctx.itemValue earlier = .ok number) ∧
    parseNumber? item.toList = none ∧ ctx.PathOutside item

theorem itemValue_eq_overflow_iff {item : String} :
    ctx.itemValue item = .error .overflow ↔
      parseNumber? item.toList = none ∧ ctx.PathOutside item := by
  unfold itemValue
  split
  · next number hnumber => simp [hnumber]
  · next hnumber =>
      rw [Settles.bind_eq_overflow_iff_left fun _ => .ofOption _ _, evaluatePath_eq_overflow_iff,
        and_iff_right hnumber]

theorem aggregate_eq_overflow_iff {kind : Aggregate} {body : String} :
    ctx.aggregate kind body = .error .overflow ↔ ctx.ListOutside body := by
  unfold aggregate
  rw [Settles.bind_eq_overflow_iff (.ofExcept _)]
  simp only [ofExcept_eq_ok_iff]
  constructor
  · rintro ⟨items, hitems, hoverflow⟩
    have hmapM : items.mapM ctx.itemValue = .error .overflow :=
      (Settles.bind_eq_overflow_iff_left fun _ => .ok _).mp hoverflow
    obtain ⟨before, item, after, rfl, hbefore, hitem⟩ := mapM_eq_error_iff.mp hmapM
    obtain ⟨hnumber, houtside⟩ := itemValue_eq_overflow_iff.mp hitem
    exact ⟨before, item, after, hitems, hbefore, hnumber, houtside⟩
  · rintro ⟨before, item, after, hitems, hbefore, hnumber, houtside⟩
    refine ⟨_, hitems, (Settles.bind_eq_overflow_iff_left fun _ => .ok _).mpr ?_⟩
    exact mapM_eq_error_iff.mpr ⟨before, item, after, rfl, hbefore,
      itemValue_eq_overflow_iff.mpr ⟨hnumber, houtside⟩⟩

/-- The evaluation of the query reads a date outside the calendar, whatever its form. -/
inductive EvaluatesOutside (ctx : Context) (query : String) : Prop where
  | path {body : String} (hform : parseForm query = .ok (.path body))
      (houtside : ctx.PathOutside body) : EvaluatesOutside ctx query
  | broadcast {body : String} (hform : parseForm query = .ok (.broadcast body))
      (houtside : ctx.BroadcastOutside body) : EvaluatesOutside ctx query
  | list {kind : Aggregate} {body : String} (hform : parseForm query = .ok (.combinator kind body))
      (houtside : ctx.ListOutside body) : EvaluatesOutside ctx query

theorem evaluate_eq_overflow_iff {query : String} :
    ctx.evaluate query = .error .overflow ↔ ctx.EvaluatesOutside query := by
  rw [evaluate, inQuery_eq_overflow_iff, attempt, Settles.bind_eq_overflow_iff (.ofExcept _)]
  simp only [ofExcept_eq_ok_iff]
  constructor
  · rintro ⟨form, hform, hoverflow⟩
    cases form with
    | path body => exact .path hform (evaluatePath_eq_overflow_iff.mp hoverflow)
    | broadcast body => exact .broadcast hform (broadcast_eq_overflow_iff.mp hoverflow)
    | combinator kind body => exact .list hform (aggregate_eq_overflow_iff.mp hoverflow)
  · rintro (⟨hform, houtside⟩ | ⟨hform, houtside⟩ | ⟨hform, houtside⟩)
    · exact ⟨_, hform, evaluatePath_eq_overflow_iff.mpr houtside⟩
    · exact ⟨_, hform, broadcast_eq_overflow_iff.mpr houtside⟩
    · exact ⟨_, hform, aggregate_eq_overflow_iff.mpr houtside⟩

end Engine

/-! ### Evaluations that settle -/

section Settled

variable {query path : String}

theorem not_lacks_of_leavesCalendar {value : Json} (hleaves : LeavesCalendar value) :
    ¬value.Lacks lastDay := by
  obtain ⟨text, moment, rfl, hmoment⟩ := hleaves
  have hday : lastDay <+: Text.trim text.toList :=
    LeavesCalendar.lastDay ⟨text, moment, rfl, hmoment⟩
  exact fun hlacks => Json.lacks_str_iff.mp hlacks (hday.isInfix.trans (infix_trim _))

theorem not_infix_existsText (value : Option Json) :
    ¬lastDay <:+: (Operators.existsText value).toList := by
  unfold Operators.existsText
  split <;> decide

theorem not_readsOutside (hroot : ctx.root.Lacks lastDay) (hbase : LacksIfAny lastDay base) :
    ¬Dates.ReadsOutside ctx call base := by
  rintro (⟨-, path, value, -, hvalue, hleaves⟩ | ⟨-, -, hleaves⟩ | ⟨-, -, -, hleaves⟩)
  · exact not_lacks_of_leavesCalendar hleaves (hroot.lookup? hvalue)
  · exact not_lacks_of_leavesCalendar hleaves (hbase _ rfl)
  · exact not_lacks_of_leavesCalendar hleaves (Json.lacks_arr_iff.mp (hbase _ rfl) _ (by simp))

theorem not_infix_argument {segments : List Segment} (hparse : parseSegments path = .ok segments)
    (hpath : ¬lastDay <:+: stripQuotes path.toList) :
    ∀ call, .call call ∈ segments → ¬lastDay <:+: stripQuotes call.trimmedArgument.toList := by
  intro call hmem hwithin
  have htrimmed : call.trimmedArgument.toList <:+: path.toList := by
    rw [Call.trimmedArgument, Text.trimmed, String.toList_ofList]
    exact (infix_trim _).trans (infix_argument hparse hmem)
  exact hpath (hwithin.trans (htrimmed.filter _))

variable [Regex.Engine]

theorem not_walksOutside (hroot : ctx.root.Lacks lastDay) (hcurrent : LacksIfAny lastDay current)
    (harguments : ∀ call, .call call ∈ segments →
      ¬lastDay <:+: stripQuotes call.trimmedArgument.toList) :
    ¬ctx.WalksOutside current segments := by
  rintro ⟨before, call, after, base, rfl, hreach, -, houtside⟩
  have hbase := lacks_of_reach hcurrent
    (fun earlier hmem => harguments earlier (List.mem_append_left _ hmem))
    not_infix_existsText base hreach
  exact not_readsOutside hroot hbase houtside

theorem not_pathOutside (hroot : ctx.root.Lacks lastDay)
    (hpath : ¬lastDay <:+: stripQuotes path.toList) : ¬ctx.PathOutside path := by
  rintro ⟨segments, hparse, houtside⟩
  refine not_walksOutside hroot ?_ (not_infix_argument hparse hpath) houtside
  rintro _ ⟨⟩
  exact hroot

theorem not_broadcastOutside (hroot : ctx.root.Lacks lastDay)
    (hpath : ¬lastDay <:+: stripQuotes path.toList) : ¬ctx.BroadcastOutside path := by
  rintro ⟨keys, rest, before, item, after, hparse, hleads, -, houtside⟩
  have hitems := Json.lacks_arr_iff.mp (hroot.leadsTo hleads)
  refine not_walksOutside hroot ?_ (fun call hmem => ?_) houtside
  · rintro _ ⟨⟩
    rw [Json.lacks_arr_iff]
    intro only hmem
    rw [List.mem_singleton.mp hmem]
    exact hitems item (by simp)
  · exact not_infix_argument hparse hpath call (List.mem_append_right _ hmem)

theorem not_evaluatesOutside (hroot : ctx.root.Lacks lastDay)
    (hquery : ¬lastDay <:+: stripQuotes query.toList) : ¬ctx.EvaluatesOutside query := by
  have hpart {part : List Char} (hpart : part <:+: query.toList) :
      ¬lastDay <:+: stripQuotes part := fun hwithin => hquery (hwithin.trans (hpart.filter _))
  rintro (⟨hform, houtside⟩ | ⟨hform, houtside⟩ | ⟨hform, houtside⟩)
  · exact not_pathOutside hroot (hpart (infix_body hform)) houtside
  · exact not_broadcastOutside hroot (hpart (infix_body hform)) houtside
  · obtain ⟨before, item, after, hitems, -, -, houtside⟩ := houtside
    refine not_pathOutside hroot (hpart ?_) houtside
    exact (infix_item hitems (by simp)).trans (infix_body hform)

end Settled

/-- Reading a date is given up exactly if it leaves the calendar, and an evaluation exactly if it
comes to such a date. Where neither the strings of the document nor the query name the last day of
the calendar, every query gives a value or an error. -/
theorem evaluate_given_up_iff [Regex.Engine] (value : Json) (ctx : Context) (query : String) :
    (Instant.ofJson? value = .error .overflow ↔ LeavesCalendar value) ∧
    (ctx.evaluate query = .error .overflow ↔ ctx.EvaluatesOutside query) ∧
    (ctx.root.Lacks lastDay → ¬lastDay <:+: stripQuotes query.toList →
      (∃ value, ctx.evaluate query = .ok value) ∨
        ∃ e, ctx.evaluate query = .error (.error e)) := by
  refine ⟨ofJson?_eq_error_iff, evaluate_eq_overflow_iff, ?_⟩
  intro hroot hquery
  cases hresult : ctx.evaluate query with
  | ok value => exact Or.inl ⟨value, rfl⟩
  | error failure =>
      cases failure with
      | error e => exact Or.inr ⟨e, rfl⟩
      | overflow =>
          exact absurd (evaluate_eq_overflow_iff.mp hresult) (not_evaluatesOutside hroot hquery)

open scoped Regex.Standard

/-- A clock behind UTC is safe on any other day. -/
theorem evaluate_given_up_iff_behind_utc :
    let ctx : Context := ⟨.obj [("when", .str "2000-07-29T23:30:00-02:00")], ⟨0, 0⟩⟩
    (∃ value, ctx.evaluate "when.date(DD)" = .ok value) ∨
      ∃ e, ctx.evaluate "when.date(DD)" = .error (.error e) := by
  intro ctx
  have hone : '1' ∈ lastDay := by decide
  refine (evaluate_given_up_iff .null ctx "when.date(DD)").2.2 ?_ ?_
  · simp only [ctx, Json.lacks_obj_iff, List.mem_singleton, forall_eq, Json.lacks_str_iff]
    exact fun hwithin => absurd (hwithin.subset hone) (by decide)
  · exact fun hwithin => absurd (hwithin.subset hone) (by decide)

/-- A timestamp of the last day on a clock behind UTC is no date and no failure either. -/
theorem evaluate_eq_overflow_of_last_day :
    Instant.ofJson? (.str "9999-12-31T23:59:59-01:00") = .error .overflow ∧
      evaluate ⟨.obj [("x", .str "9999-12-31T23:59:59-01:00")], ⟨0, 0⟩⟩ "x.date(YY)" =
        .error .overflow :=
  ⟨rfl, rfl⟩

end Context

end DotQuery

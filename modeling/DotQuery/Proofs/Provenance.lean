import DotQuery.Proofs.KeyPath
import DotQuery.Proofs.Rendering
import DotQuery.Proofs.Validation

/-!
# Where the strings of an evaluation come from

An evaluation takes values apart and puts them together, and it makes few strings of its own: the
two answers to whether something exists, the match of a pattern, which is part of a string, and a
default, which is written in the query. So a piece of text that occurs neither in the strings of the
document nor in the query occurs in no value that the evaluation meets.
-/

namespace DotQuery

open Query Attempt

/-! ### Values without a piece of text -/

namespace Json

/-- The text is a string somewhere in the value. -/
inductive Holds (text : String) : Json → Prop where
  | here : Holds text (.str text)
  | item {items : List Json} {item : Json} (hmem : item ∈ items) (hitem : Holds text item) :
      Holds text (.arr items)
  | member {members : List (String × Json)} {key : String} {child : Json}
      (hmem : (key, child) ∈ members) (hchild : Holds text child) : Holds text (.obj members)

/-- The piece of text occurs in no string of the value. -/
def Lacks (piece : List Char) (value : Json) : Prop :=
  ∀ text, value.Holds text → ¬piece <:+: text.toList

variable {piece : List Char} {value target : Json} {key : String} {keys : List String}
  {items : List Json}

theorem lacks_str_iff {text : String} : (str text).Lacks piece ↔ ¬piece <:+: text.toList := by
  constructor
  · exact fun hlacks => hlacks text .here
  · rintro hlacks _ ⟨⟩
    exact hlacks

theorem lacks_arr_iff : (arr items).Lacks piece ↔ ∀ item ∈ items, item.Lacks piece := by
  constructor
  · exact fun hlacks item hmem text hholds => hlacks text (.item hmem hholds)
  · rintro hlacks text (_ | ⟨hmem, hholds⟩)
    exact hlacks _ hmem text hholds

theorem lacks_obj_iff {members : List (String × Json)} :
    (obj members).Lacks piece ↔ ∀ member ∈ members, member.2.Lacks piece := by
  constructor
  · exact fun hlacks member hmem text hholds => hlacks text (.member hmem hholds)
  · rintro hlacks text (_ | _ | ⟨hmem, hholds⟩)
    exact hlacks _ hmem text hholds

theorem lacks_null : null.Lacks piece := nofun

theorem lacks_num (n : Number) : (num n).Lacks piece := nofun

theorem lacks_ofBinary64 (x : Binary64) : (ofBinary64 x).Lacks piece := by
  unfold ofBinary64
  split
  · split
    · exact lacks_num _
    · exact lacks_num _
  · exact lacks_null

theorem Lacks.of_mem {members : List (String × Json)} (hlacks : (obj members).Lacks piece)
    (hmember : members.lookup key = some target) : target.Lacks piece := by
  obtain ⟨before, after, rfl, -⟩ := List.lookup_eq_some_iff.mp hmember
  exact lacks_obj_iff.mp hlacks (key, target) (by simp)

theorem Lacks.member? (hlacks : value.Lacks piece) (hmember : value.member? key = some target) :
    target.Lacks piece := by
  cases value with
  | obj members => exact hlacks.of_mem hmember
  | _ => cases hmember

theorem Lacks.child? (hlacks : value.Lacks piece) (hchild : value.child? key = some target) :
    target.Lacks piece := by
  cases value with
  | obj members => exact hlacks.of_mem hchild
  | arr items =>
      obtain ⟨index, -, hitem⟩ := Option.bind_eq_some_iff.mp hchild
      exact lacks_arr_iff.mp hlacks _ (List.mem_of_getElem? hitem)
  | _ => cases hchild

theorem Lacks.lookup? (hlacks : value.Lacks piece) (hlookup : value.lookup? keys = some target) :
    target.Lacks piece := by
  induction keys generalizing value with
  | nil =>
      cases hlookup
      exact hlacks
  | cons key rest ih =>
      obtain ⟨child, hchild, hrest⟩ := Option.bind_eq_some_iff.mp hlookup
      exact ih (hlacks.child? hchild) hrest

theorem Lacks.leadsTo (hlacks : value.Lacks piece) (hleads : value.LeadsTo keys items) :
    (arr items).Lacks piece := by
  induction hleads with
  | here items => exact hlacks
  | member hmember hchild ih => exact ih (hlacks.of_mem hmember)

theorem Lacks.flattenOne (hlacks : ∀ item ∈ items, item.Lacks piece) :
    (arr (Sequence.flattenOne items)).Lacks piece := by
  rw [lacks_arr_iff]
  intro item hmem
  obtain ⟨outer, houter, hitem⟩ := List.mem_flatMap.mp hmem
  have hpart := hlacks outer houter
  cases outer with
  | arr inner => exact lacks_arr_iff.mp hpart item hitem
  | _ =>
      rw [List.mem_singleton.mp hitem]
      exact hpart

theorem subset_uniqueAfter (key : String) (seen : List (Option String)) (items : List Json) :
    Sequence.uniqueAfter key seen items ⊆ items := by
  induction items generalizing seen with
  | nil => exact List.Subset.refl _
  | cons item rest ih =>
      unfold Sequence.uniqueAfter
      dsimp only
      split
      · exact List.subset_cons_of_subset _ (ih _)
      · exact List.cons_subset_cons _ (ih _)

end Json

/-! ### Attempts -/

namespace Attempt

variable {α β : Type} {P : α → Prop} {Q : β → Prop} {attempt : Attempt α}

/-- Whatever value the attempt gives has the property. -/
def Yields (P : α → Prop) (attempt : Attempt α) : Prop :=
  ∀ a, attempt = .ok a → P a

namespace Yields

theorem ok {a : α} (ha : P a) : Yields P (.ok a) := by
  rintro _ ⟨⟩
  exact ha

theorem fail (cause : Cause) : Yields P (fail cause : Attempt α) := nofun

theorem bind {next : α → Attempt β} (hattempt : Yields P attempt)
    (hnext : ∀ a, P a → Yields Q (next a)) : Yields Q (attempt >>= next) := by
  intro b hb
  obtain ⟨a, ha, hnextValue⟩ := bind_eq_ok_iff.mp hb
  exact hnext a (hattempt a ha) b hnextValue

/-- What is given first does not matter if everything that follows has the property. -/
theorem bind_right {next : α → Attempt β} (hnext : ∀ a, Yields Q (next a)) :
    Yields Q (attempt >>= next) :=
  bind (P := fun _ => True) (fun _ _ => trivial) fun a _ => hnext a

theorem mapM {step : α → Attempt β} {items : List α}
    (hstep : ∀ item ∈ items, Yields Q (step item)) :
    Yields (fun values => ∀ value ∈ values, Q value) (items.mapM step) := by
  intro values hvalues
  exact forall_mem_of_mapM_eq_ok hvalues hstep

end Yields

end Attempt

/-! ### Operators -/

section Operators

variable {piece : List Char} {ctx : Context} {call : Call} {base : Option Json}

/-- The piece occurs in no string of a value that may be absent. -/
def LacksIfAny (piece : List Char) (base : Option Json) : Prop :=
  ∀ value, base = some value → value.Lacks piece

theorem yields_sequence (hbase : LacksIfAny piece base) :
    Yields (fun items => ∀ item ∈ items, item.Lacks piece) (Operators.sequence call base) := by
  intro items hitems
  rw [Operators.sequence, ofOption_eq_ok_iff, Option.bind_eq_some_iff] at hitems
  obtain ⟨value, rfl, hvalue⟩ := hitems
  cases value with
  | arr inner =>
      cases hvalue
      exact Json.lacks_arr_iff.mp (hbase _ rfl)
  | _ => cases hvalue

theorem yields_map (hbase : LacksIfAny piece base) :
    Yields (Json.Lacks piece) (Operators.map call base) := by
  refine (yields_sequence hbase).bind fun items hitems => ?_
  have hfield : ∀ item ∈ items, Yields (Json.Lacks piece)
      (ofOption (.noField call.trimmedArgument call.raw) (item.member? call.trimmedArgument)) :=
    fun item hmem value hvalue => (hitems item hmem).member? (ofOption_eq_ok_iff.mp hvalue)
  exact (Yields.mapM hfield).bind fun fields hfields => .ok (.flattenOne hfields)

theorem yields_filter (hbase : LacksIfAny piece base) :
    Yields (Json.Lacks piece) (Operators.filter call base) := by
  refine (yields_sequence hbase).bind fun items hitems => ?_
  refine Yields.bind_right fun equator => .ok (Json.lacks_arr_iff.mpr fun item hmem => ?_)
  exact hitems item (List.mem_of_mem_filter hmem)

theorem yields_extremum (find : List Binary64 → Option Binary64) :
    Yields (Json.Lacks piece) (Operators.extremum find call base) := by
  refine Yields.bind_right fun values => ?_
  cases find values with
  | some value => exact .ok (Json.lacks_ofBinary64 _)
  | none => exact Yields.bind_right fun _ => .ok (Json.lacks_ofBinary64 _)

theorem lacks_literal {argument : String} (hargument : ¬piece <:+: stripQuotes argument.toList) :
    (Operators.literal argument).Lacks piece := by
  unfold Operators.literal
  split
  · exact Json.lacks_ofBinary64 _
  · rwa [Json.lacks_str_iff, String.toList_ofList]

theorem lacks_default (hbase : LacksIfAny piece base)
    (hargument : ¬piece <:+: stripQuotes call.trimmedArgument.toList) :
    (Operators.default call base).Lacks piece := by
  unfold Operators.default
  split
  · exact lacks_literal hargument
  · cases base with
    | none => exact Json.lacks_null
    | some value => exact hbase value rfl

theorem yields_regex [Regex.Engine] (hbase : LacksIfAny piece base) (hne : piece ≠ []) :
    Yields (Json.Lacks piece) (Operators.regex call base) := by
  unfold Operators.regex
  split
  · next text =>
      split
      · next found hfind =>
          refine .ok (Json.lacks_str_iff.mpr ?_)
          rw [String.toList_ofList]
          cases found with
          | none => exact fun hwithin => hne (List.infix_nil.mp hwithin)
          | some found =>
              have htext := Json.lacks_str_iff.mp (hbase _ rfl)
              exact fun hwithin => htext (hwithin.trans (Regex.Engine.infix_of_find? hfind))
      · exact .fail _
  · exact .fail _

theorem yields_stamp {unit : Calendar.DateUnit} {now : Calendar.Moment} :
    Yields (Json.Lacks piece) (Dates.stamp call unit now base) := by
  refine Yields.bind_right fun t => ?_
  split
  · exact .ok (Json.lacks_num _)
  · exact Yields.bind_right fun _ => .ok (Json.lacks_num _)

theorem yields_dates : Yields (Json.Lacks piece) (Dates.evaluate ctx call base) := by
  refine Yields.bind_right fun unit => Yields.bind_right fun now => ?_
  split
  · exact (Yields.mapM fun item _ => yields_stamp).bind fun answers hanswers =>
      .ok (Json.lacks_arr_iff.mpr hanswers)
  · exact yields_stamp

theorem yields_unique (hbase : LacksIfAny piece base) :
    Yields (Json.Lacks piece) (do
      let items ← Operators.sequence call base
      return .arr (Sequence.uniqueBy call.trimmedArgument items)) := by
  refine (yields_sequence hbase).bind fun items hitems => ?_
  refine .ok (Json.lacks_arr_iff.mpr fun item hmem => ?_)
  exact hitems item (Json.subset_uniqueAfter _ _ _ hmem)

/-- What an operator gives has no piece of text in it that is not in its value, in its argument
without quotes, or in the answers to whether something exists. -/
theorem yields_apply [Regex.Engine] (hbase : LacksIfAny piece base)
    (hargument : ¬piece <:+: stripQuotes call.trimmedArgument.toList)
    (hanswers : ∀ value, ¬piece <:+: (Operators.existsText value).toList) :
    Yields (Json.Lacks piece) (Operators.apply ctx call base) := by
  have hne : piece ≠ [] := by
    rintro rfl
    exact hanswers none List.nil_infix
  unfold Operators.apply
  cases call.operator with
  | count => exact Yields.bind_right fun _ => .ok (Json.lacks_num _)
  | map => exact yields_map hbase
  | filter => exact yields_filter hbase
  | sum => exact Yields.bind_right fun _ => .ok (Json.lacks_ofBinary64 _)
  | unique => exact yields_unique hbase
  | mean =>
      exact Yields.bind_right fun _ => Yields.bind_right fun _ => .ok (Json.lacks_ofBinary64 _)
  | min => exact yields_extremum _
  | max => exact yields_extremum _
  | range => exact Yields.bind_right fun _ => .ok (Json.lacks_ofBinary64 _)
  | «exists» => exact .ok (Json.lacks_str_iff.mpr (hanswers base))
  | default => exact .ok (lacks_default hbase hargument)
  | age => exact yields_dates
  | date => exact yields_dates
  | regex => exact yields_regex hbase hne

end Operators

/-! ### Walks -/

namespace Context

variable {ctx : Context} {piece : List Char} {current : Option Json} {segments : List Segment}

theorem lacks_of_stepKey {key : String} {next : Option Segment}
    (hcurrent : LacksIfAny piece current) :
    Yields (LacksIfAny piece) (stepKey current key next) := by
  intro member hmember value hvalue
  obtain ⟨parent, rfl, -, -, rfl⟩ := stepKey_none_eq_ok_iff.mp (stepKey_none_of_eq_ok hmember)
  exact (hcurrent parent rfl).member? hvalue

/-- No value on the way of a walk has a piece of text in it that is not in the value the walk starts
from or in an argument without quotes. -/
theorem lacks_of_reach [Regex.Engine] (hcurrent : LacksIfAny piece current)
    (harguments : ∀ call, .call call ∈ segments →
      ¬piece <:+: stripQuotes call.trimmedArgument.toList)
    (hanswers : ∀ value, ¬piece <:+: (Operators.existsText value).toList) :
    Yields (LacksIfAny piece) (ctx.reach current segments) := by
  induction segments generalizing current with
  | nil => exact .ok hcurrent
  | cons segment rest ih =>
      have hrest := fun call hmem => harguments call (List.mem_cons_of_mem _ hmem)
      cases segment with
      | key name => exact (lacks_of_stepKey hcurrent).bind fun member hmember => ih hmember hrest
      | call call =>
          have hcall : Yields (Json.Lacks piece) (ctx.stepCall call current) := by
            unfold stepCall
            split
            · exact .fail _
            · exact yields_apply hcurrent (harguments call List.mem_cons_self) hanswers
          refine hcall.bind fun value hvalue => ih ?_ hrest
          rintro _ ⟨⟩
          exact hvalue

end Context

/-! ### Parts of a query -/

/-- The text that a form is evaluated from. -/
def Query.Form.body : Form → String
  | .combinator _ body | .broadcast body | .path body => body

section Parts

variable {query path body : String}

theorem infix_of_mem_intercalate (separator : List Char) {piece : List Char}
    {pieces : List (List Char)} (hmem : piece ∈ pieces) :
    piece <:+: separator.intercalate pieces := by
  induction pieces with
  | nil => exact absurd hmem List.not_mem_nil
  | cons first rest ih =>
      cases rest with
      | nil =>
          have hsingle : separator.intercalate [first] = piece := by
            rw [List.mem_singleton.mp hmem, List.intercalate_singleton]
          exact hsingle.symm ▸ List.infix_refl piece
      | cons next rest =>
          rw [List.intercalate_cons_cons]
          rcases List.mem_cons.mp hmem with rfl | hrest
          · exact ⟨[], separator ++ separator.intercalate (next :: rest), by simp⟩
          · exact (ih hrest).trans (List.suffix_append _ _).isInfix

theorem infix_trim (text : List Char) : Text.trim text <:+: text := by
  have hend : ∀ text : List Char, Text.trimEnd text <+: text := fun text => by
    have hsuffix : (Text.trimEnd text).reverse <:+ text.reverse := by
      rw [Text.trimEnd, List.reverse_reverse]
      exact List.dropWhile_suffix _
    exact List.reverse_suffix.mp hsuffix
  exact (hend _).isInfix.trans (List.dropWhile_suffix _).isInfix

theorem infix_argument {segments : List Segment} {call : Call}
    (hparse : parseSegments path = .ok segments) (hmem : .call call ∈ segments) :
    call.argument.toList <:+: path.toList := by
  obtain ⟨hsplit, hformed⟩ := parseSegments_eq_ok_iff.mp hparse
  have hraw : call.raw.toList <:+: path.toList := by
    rw [← hsplit.join]
    exact infix_of_mem_intercalate _ (List.mem_map.mpr ⟨_, hmem, rfl⟩)
  cases hformed _ hmem with
  | call hwritten hargument =>
      rw [hwritten, Call.toList_written] at hraw
      have hinside : call.argument.toList <:+:
          call.operator.name.toList ++ '(' :: (call.argument.toList ++ [')']) :=
        ⟨call.operator.name.toList ++ ['('], [')'], by simp⟩
      exact hinside.trans hraw

theorem infix_item {items : List String} {item : String} (hitems : parseItems body = .ok items)
    (hmem : item ∈ items) : item.toList <:+: body.toList := by
  have hcomma : isBracket ',' = false := by decide
  obtain ⟨pieces, hsplit, hpure⟩ := bind_eq_ok_iff.mp hitems
  cases hpure
  obtain ⟨_, hkept, rfl⟩ := List.mem_map.mp hmem
  obtain ⟨piece, hpiece, rfl⟩ := List.mem_map.mp (List.mem_of_mem_filter hkept)
  rw [splitOrFail_eq_ok_iff, split_eq_ok_iff hcomma] at hsplit
  rw [String.toList_ofList, ← hsplit.join]
  exact (infix_trim piece).trans (infix_of_mem_intercalate _ hpiece)

theorem infix_body {form : Form} (hform : parseForm query = .ok form) :
    form.body.toList <:+: query.toList := by
  cases form with
  | combinator kind body =>
      rw [eq_of_parseForm_combinator hform]
      exact ⟨kind.opening.toList, "])".toList, by simp [Form.body]⟩
  | broadcast inner =>
      unfold parseForm at hform
      split at hform
      · split at hform <;> cases hform
      · split at hform
        · next rest hrest =>
            cases hform
            rw [Text.dropLeading?_eq_some_iff.mp hrest, Form.body, String.toList_ofList]
            exact (List.suffix_append _ _).isInfix
        · cases hform
  | path inner =>
      unfold parseForm at hform
      split at hform
      · split at hform <;> cases hform
      · split at hform
        · cases hform
        · cases hform
          exact List.infix_refl _

end Parts

end DotQuery

import DotQuery.Evaluation.Broadcast
import DotQuery.Proofs.WalkComposition

/-!
# Leading keys

Keys lead through objects to the first sequence on their way. Broadcasting and walking both follow
them, each with a loop of its own, and both end at that sequence.
-/

namespace DotQuery

open Query Attempt

namespace Json

/-- The keys lead from object to object, and the last one to a sequence with these items. -/
inductive LeadsTo : Json → List String → List Json → Prop where
  | here (items : List Json) : LeadsTo (.arr items) [] items
  | member {members : List (String × Json)} {key : String} {child : Json} {keys : List String}
      {items : List Json} (hmember : members.lookup key = some child)
      (hchild : LeadsTo child keys items) :
      LeadsTo (.obj members) (key :: keys) items

/-- The value with `replacement` in the place that the keys lead to. -/
def replaceAt : Json → List String → Json → Json
  | _, [], replacement => replacement
  | .obj members, key :: keys, replacement =>
    match members.lookup key with
    | some child => .obj (insertMember key (child.replaceAt keys replacement) members)
    | none => .obj members
  | value, _ :: _, _ => value

theorem lookup_insertMember_self (key : String) (value : Json) (members : List (String × Json)) :
    (insertMember key value members).lookup key = some value := by
  induction members with
  | nil => simp [insertMember]
  | cons member rest ih =>
      obtain ⟨name, old⟩ := member
      by_cases hname : name = key
      · simp [insertMember, hname]
      · have hbeq : (key == name) = false := by simpa using Ne.symm hname
        simp [insertMember, hname, List.lookup_cons, hbeq, ih]

/-- Keys lead to what has been put in the place of their sequence. -/
theorem LeadsTo.replaceAt {value : Json} {keys : List String} {items : List Json}
    (hleads : value.LeadsTo keys items) (replacement : List Json) :
    (value.replaceAt keys (.arr replacement)).LeadsTo keys replacement := by
  induction hleads with
  | here items => exact .here replacement
  | @member members key child keys items hmember hchild ih =>
      simp only [Json.replaceAt, hmember]
      exact .member (lookup_insertMember_self _ _ _) ih

end Json

namespace Context

variable {value : Json} {keys : List String} {items : List Json}

/-- A sequence is followed by no further key of a broadcast. -/
theorem lead_arr (items : List Json) (taken : Nat) (rest : List Segment) :
    lead (.arr items) taken rest = .ok ⟨.arr items, taken, rest⟩ := by
  cases rest with
  | nil => rfl
  | cons segment rest => cases segment <;> rfl

theorem lead_of_leadsTo (hleads : value.LeadsTo keys items) (taken : Nat) (rest : List Segment) :
    lead value taken (keys.map .key ++ rest) =
      .ok ⟨.arr items, taken + keys.length, rest⟩ := by
  induction hleads generalizing taken with
  | here items => exact lead_arr items taken rest
  | @member members key child keys items hmember hchild ih =>
      simp only [List.map_cons, List.cons_append, lead, Json.isArray, Bool.false_eq_true,
        ↓reduceIte, Json.member?, hmember, ih, List.length_cons]
      congr 2
      omega

/-- What has been followed are keys, and they lead to the value if that is a sequence. -/
theorem exists_keys_of_lead {taken : Nat} {segments : List Segment} {found : Lead}
    (hlead : lead value taken segments = .ok found) :
    ∃ keys : List String, segments = keys.map .key ++ found.rest ∧
      found.taken = taken + keys.length ∧
      ∀ items, found.value = .arr items → value.LeadsTo keys items := by
  have hhere {value : Json} : ∀ items, value = .arr items → value.LeadsTo [] items := by
    rintro items rfl
    exact .here items
  induction segments generalizing value taken with
  | nil =>
      cases hlead
      exact ⟨[], rfl, rfl, hhere⟩
  | cons segment rest ih =>
      cases segment with
      | call call =>
          cases hlead
          exact ⟨[], rfl, rfl, hhere⟩
      | key name =>
          unfold lead at hlead
          split at hlead
          · cases hlead
            exact ⟨[], rfl, rfl, hhere⟩
          · split at hlead
            · next member hmember =>
                obtain ⟨keys, hrest, htaken, hleads⟩ := ih hlead
                refine ⟨name :: keys, congrArg (_ :: ·) hrest, ?_, fun items hitems => ?_⟩
                · rw [htaken, List.length_cons]
                  omega
                · cases value with
                  | obj members => exact .member hmember (hleads items hitems)
                  | _ => cases hmember
            · cases hlead

variable [Regex.Engine]

/-- On the way to a sequence the look-ahead has nothing to refuse. -/
theorem reach_of_leadsTo (ctx : Context) (hleads : value.LeadsTo keys items) :
    ctx.reach (some value) (keys.map .key) = .ok (some (.arr items)) := by
  induction hleads with
  | here items => rfl
  | @member members key child keys items hmember hchild ih =>
      have hstep : stepKey (some (.obj members)) key (keys.map Segment.key).head? =
          .ok (some child) := by
        cases hchild with
        | here items => simp [stepKey, Json.member?, hmember, checkMember]
        | member hnext hrest =>
            simp [stepKey, Json.member?, hmember, checkMember, Json.isArray, Json.isNull]
      simp only [List.map_cons, reach, hstep, ok_bind, ih]

/-- A walk over leading keys agrees with the walk from their sequence. -/
theorem agree_walk_of_leadsTo (ctx : Context) (hleads : value.LeadsTo keys items)
    (rest : List Segment) :
    Agree (ctx.walk value (keys.map .key ++ rest)) (ctx.walk (.arr items) rest) := by
  have hagree := ctx.agree_walkFrom_append (some value) (keys.map .key) rest
  rwa [ctx.reach_of_leadsTo hleads, ok_bind] at hagree

theorem broadcast_eq_mapM (ctx : Context) {body : String} {rest : List Segment}
    (hparse : parseSegments body = .ok (keys.map .key ++ rest))
    (hleads : ctx.root.LeadsTo keys items) :
    ctx.broadcast body = items.mapM (ctx.broadcastItem rest) >>= fun values =>
      .ok (.arr values) := by
  simp only [broadcast, hparse, ofExcept_ok, ok_bind, lead_of_leadsTo hleads]
  rfl

theorem exists_of_broadcast_eq_ok (ctx : Context) {body : String} {value : Json}
    (hvalue : ctx.broadcast body = .ok value) :
    ∃ keys rest items values, parseSegments body = .ok (keys.map .key ++ rest) ∧
      ctx.root.LeadsTo keys items ∧ items.mapM (ctx.broadcastItem rest) = .ok values ∧
      value = .arr values := by
  obtain ⟨segments, hparse, hfollow⟩ := bind_eq_ok_iff.mp hvalue
  obtain ⟨found, hlead, hitems⟩ := bind_eq_ok_iff.mp hfollow
  obtain ⟨keys, hsegments, -, hleads⟩ := exists_keys_of_lead hlead
  split at hitems
  · next items hfound =>
      obtain ⟨values, hvalues, harr⟩ := bind_eq_ok_iff.mp hitems
      refine ⟨keys, found.rest, items, values, ?_, hleads items hfound, hvalues,
        (Except.ok.inj harr).symm⟩
      rw [← hsegments]
      exact ofExcept_eq_ok_iff.mp hparse
  · cases hitems

/-- A path with a call is walked from the root. -/
theorem evaluatePath_eq_walk (ctx : Context) {body : String} {segments : List Segment}
    (hparse : parseSegments body = .ok segments) (hcall : ∃ call, .call call ∈ segments) :
    ctx.evaluatePath body = ctx.walk ctx.root segments := by
  have hany : segments.any Segment.isCall = true := by
    obtain ⟨call, hmem⟩ := hcall
    exact List.any_eq_true.mpr ⟨.call call, hmem, rfl⟩
  simp only [evaluatePath, hparse, ofExcept_ok, ok_bind, hany, ↓reduceIte]

end Context

end DotQuery

import DotQuery.Proofs.PrintedValues

/-!
# Read values

The scalars of a text are no arrays or objects, so the depth of a value that is read comes from its
brackets alone, and these are counted. Repeated keys are merged. So whatever is read fits, and of
the values whose numbers are read back exactly those are that fit.
-/

namespace DotQuery

namespace Json

variable {value : Json} {depth fuel : Nat} {token : Token} {tokens rest : List Token}

/-! ### Scalars -/

/-- A value without parts. -/
inductive IsScalar : Json → Prop where
  | null : IsScalar .null
  | bool (value : Bool) : IsScalar (.bool value)
  | num (number : Number) : IsScalar (.num number)
  | str (text : String) : IsScalar (.str text)

/-- The tokens that stand for a value stand for scalars. -/
def HoldScalars (tokens : List Token) : Prop :=
  ∀ value, .scalar value ∈ tokens → value.IsScalar

theorem HoldScalars.tail (htokens : HoldScalars (token :: tokens)) : HoldScalars tokens :=
  fun value hmem => htokens value (List.mem_cons_of_mem token hmem)

theorem isScalar_of_takeToken? {text others : List Char}
    (htake : takeToken? text = some (.scalar value, others)) : value.IsScalar := by
  unfold takeToken? at htake
  split at htake
  case h_7 =>
    obtain ⟨⟨pieces, behind⟩, -, htoken⟩ := Option.bind_eq_some_iff.mp htake
    have hpieces : Token.ofPieces pieces = .scalar value :=
      congrArg Prod.fst (Option.some.inj htoken)
    unfold Token.ofPieces at hpieces
    split at hpieces
    · cases hpieces
      exact .str _
    · cases hpieces
  case h_11 =>
    obtain ⟨⟨number, behind⟩, -, htoken⟩ := Option.bind_eq_some_iff.mp htake
    have hnumber : Token.ofNumber number = .scalar value :=
      congrArg Prod.fst (Option.some.inj htoken)
    cases number with
    | none => cases hnumber
    | some number =>
        cases hnumber
        exact .num number
  case h_8 =>
    cases htake
    exact .null
  case h_9 =>
    cases htake
    exact .bool true
  case h_10 =>
    cases htake
    exact .bool false
  all_goals cases htake

theorem holdScalars_of_tokensWithin? {text : List Char}
    (htokens : tokensWithin? fuel text = some tokens) : HoldScalars tokens := by
  induction fuel generalizing text tokens with
  | zero => cases htokens
  | succ fuel ih =>
      rw [tokensWithin?] at htokens
      split at htokens
      · cases htokens
        intro value hmem
        cases hmem
      · obtain ⟨⟨token, behind⟩, htake, hmore⟩ := Option.bind_eq_some_iff.mp htokens
        obtain ⟨later, hlater, heq⟩ := Option.bind_eq_some_iff.mp hmore
        cases heq
        intro value hmem
        rcases List.mem_cons.mp hmem with rfl | hlaterMem
        · exact isScalar_of_takeToken? htake
        · exact ih hlater value hlaterMem

/-! ### Depth -/

/-- Arrays and objects lie at most `depth` deep inside one another. -/
inductive Nests : Nat → Json → Prop where
  | scalar {depth : Nat} {value : Json} (hscalar : value.IsScalar) : Nests depth value
  | arr {depth : Nat} {items : List Json} (hitems : ∀ item ∈ items, Nests depth item) :
      Nests (depth + 1) (.arr items)
  | obj {depth : Nat} {members : List (String × Json)}
      (hmembers : ∀ member ∈ members, Nests depth member.2) : Nests (depth + 1) (.obj members)

section Nests

variable {items : List Json} {members : List (String × Json)} (hdepth : depth ≠ 0)
include hdepth

theorem nests_arr (hitems : ∀ item ∈ items, item.Nests (depth - 1)) : (arr items).Nests depth := by
  obtain ⟨less, rfl⟩ := Nat.exists_eq_succ_of_ne_zero hdepth
  exact .arr hitems

theorem nests_obj (hmembers : ∀ member ∈ members, member.2.Nests (depth - 1)) :
    (obj members).Nests depth := by
  obtain ⟨less, rfl⟩ := Nat.exists_eq_succ_of_ne_zero hdepth
  exact .obj hmembers

end Nests

/-- What is taken with so much fuel nests, and what is left of the tokens stands for scalars. -/
structure ReadsNested (fuel : Nat) : Prop where
  value {depth : Nat} {tokens rest : List Token} {value : Json} (htokens : HoldScalars tokens)
    (htake : takeValue? depth fuel tokens = some (value, rest)) :
    value.Nests depth ∧ HoldScalars rest
  items {depth : Nat} {tokens rest : List Token} {items : List Json}
    (htokens : HoldScalars tokens) (htake : takeItems? depth fuel tokens = some (items, rest)) :
    (∀ item ∈ items, item.Nests depth) ∧ HoldScalars rest
  members {depth : Nat} {tokens rest : List Token} {members : List (String × Json)}
    (htokens : HoldScalars tokens)
    (htake : takeMembers? depth fuel tokens = some (members, rest)) :
    (∀ member ∈ members, member.2.Nests depth) ∧ HoldScalars rest

namespace ReadsNested

variable {items : List Json} {members : List (String × Json)} (hreads : ReadsNested fuel)
  (htokens : HoldScalars tokens)
include hreads htokens

theorem value_succ (htake : takeValue? depth (fuel + 1) tokens = some (value, rest)) :
    value.Nests depth ∧ HoldScalars rest := by
  unfold takeValue? at htake
  split at htake
  · cases htake
    exact ⟨.scalar (htokens _ List.mem_cons_self), htokens.tail⟩
  · split at htake
    · cases htake
    · next hdepth =>
        cases htake
        exact ⟨nests_arr hdepth nofun, htokens.tail.tail⟩
  · split at htake
    · cases htake
    · next hdepth =>
        cases htake
        exact ⟨nests_obj hdepth nofun, htokens.tail.tail⟩
  · split at htake
    · cases htake
    · next hdepth =>
        obtain ⟨⟨items, behind⟩, hitems, heq⟩ := Option.bind_eq_some_iff.mp htake
        obtain ⟨hall, hbehind⟩ := hreads.items htokens.tail hitems
        cases heq
        exact ⟨nests_arr hdepth hall, hbehind⟩
  · split at htake
    · cases htake
    · next hdepth =>
        obtain ⟨⟨members, behind⟩, hmembers, heq⟩ := Option.bind_eq_some_iff.mp htake
        obtain ⟨hall, hbehind⟩ := hreads.members htokens.tail hmembers
        cases heq
        exact ⟨nests_obj hdepth hall, hbehind⟩
  · cases htake

theorem items_succ (htake : takeItems? depth (fuel + 1) tokens = some (items, rest)) :
    (∀ item ∈ items, item.Nests depth) ∧ HoldScalars rest := by
  rw [takeItems?] at htake
  obtain ⟨⟨item, behind⟩, hitem, hmore⟩ := Option.bind_eq_some_iff.mp htake
  obtain ⟨hnests, hbehind⟩ := hreads.value htokens hitem
  dsimp only at hmore
  split at hmore
  · cases hmore
    exact ⟨List.forall_mem_singleton.mpr hnests, hbehind.tail⟩
  · obtain ⟨⟨others, last⟩, hothers, heq⟩ := Option.bind_eq_some_iff.mp hmore
    obtain ⟨hall, hlast⟩ := hreads.items hbehind.tail hothers
    cases heq
    exact ⟨List.forall_mem_cons.mpr ⟨hnests, hall⟩, hlast⟩
  · cases hmore

theorem members_succ (htake : takeMembers? depth (fuel + 1) tokens = some (members, rest)) :
    (∀ member ∈ members, member.2.Nests depth) ∧ HoldScalars rest := by
  unfold takeMembers? at htake
  split at htake
  · obtain ⟨⟨value, behind⟩, hvalue, hmore⟩ := Option.bind_eq_some_iff.mp htake
    obtain ⟨hnests, hbehind⟩ := hreads.value htokens.tail.tail hvalue
    dsimp only at hmore
    split at hmore
    · cases hmore
      exact ⟨List.forall_mem_singleton.mpr hnests, hbehind.tail⟩
    · obtain ⟨⟨others, last⟩, hothers, heq⟩ := Option.bind_eq_some_iff.mp hmore
      obtain ⟨hall, hlast⟩ := hreads.members hbehind.tail hothers
      cases heq
      exact ⟨List.forall_mem_cons.mpr ⟨hnests, hall⟩, hlast⟩
    · cases hmore
  · cases htake

end ReadsNested

theorem readsNested (fuel : Nat) : ReadsNested fuel := by
  induction fuel with
  | zero =>
      refine ⟨fun _ htake => ?_, fun _ htake => ?_, fun _ htake => ?_⟩ <;> cases htake
  | succ fuel ih => exact ⟨ih.value_succ, ih.items_succ, ih.members_succ⟩

/-! ### Merging -/

section Merging

variable {key : String} {items : List Json} {member : String × Json}
  {members : List (String × Json)}

theorem keys_insertMember_of_mem (hmem : key ∈ members.map Prod.fst) (value : Json) :
    (insertMember key value members).map Prod.fst = members.map Prod.fst := by
  induction members with
  | nil => cases hmem
  | cons first rest ih =>
      obtain ⟨name, old⟩ := first
      rw [insertMember]
      split
      · rfl
      · next hne =>
          have hrest := (List.mem_cons.mp hmem).resolve_left (Ne.symm hne)
          exact congrArg (name :: ·) (ih hrest)

theorem nodup_keys_insertMember (hkeys : (members.map Prod.fst).Nodup) (value : Json) :
    ((insertMember key value members).map Prod.fst).Nodup := by
  by_cases hmem : key ∈ members.map Prod.fst
  · rw [keys_insertMember_of_mem hmem]
    exact hkeys
  · rw [insertMember_of_not_mem hmem, List.map_append, List.nodup_append]
    refine ⟨hkeys, List.nodup_singleton key, ?_⟩
    rintro name hname other hother rfl
    rw [List.mem_singleton.mp hother] at hname
    exact hmem hname

theorem mem_insertMember (hmember : member ∈ insertMember key value members) :
    member = (key, value) ∨ member ∈ members := by
  induction members with
  | nil => exact .inl (List.mem_singleton.mp hmember)
  | cons first rest ih =>
      obtain ⟨name, old⟩ := first
      rw [insertMember] at hmember
      split at hmember
      · next hname =>
          rw [hname] at hmember
          rcases List.mem_cons.mp hmember with heq | hrest
          · exact .inl heq
          · exact .inr (List.mem_cons_of_mem _ hrest)
      · rcases List.mem_cons.mp hmember with rfl | hrest
        · exact .inr List.mem_cons_self
        · exact (ih hrest).imp_right (List.mem_cons_of_mem _)

/-- Merging keeps the keys apart that were, and adds only merged values. -/
theorem mergedMembers_spec (done : List (String × Json)) (hkeys : (done.map Prod.fst).Nodup)
    (hdone : ∀ member ∈ done, member.2.Fits depth)
    (hmembers : ∀ member ∈ members, member.2.merged.Fits depth) :
    ((mergedMembers done members).map Prod.fst).Nodup ∧
      ∀ member ∈ mergedMembers done members, member.2.Fits depth := by
  induction members generalizing done with
  | nil => exact ⟨hkeys, hdone⟩
  | cons member rest ih =>
      obtain ⟨key, value⟩ := member
      rw [List.forall_mem_cons] at hmembers
      rw [mergedMembers]
      refine ih _ (nodup_keys_insertMember hkeys _) ?_ hmembers.2
      intro member hmember
      rcases mem_insertMember hmember with rfl | hold
      · exact hmembers.1
      · exact hdone member hold

theorem mergedItems_eq_map (items : List Json) : mergedItems items = items.map merged := by
  induction items with
  | nil => rfl
  | cons item rest ih => rw [mergedItems, ih, List.map_cons]

theorem Nests.fits_merged (hnests : value.Nests depth) : value.merged.Fits depth := by
  induction hnests with
  | scalar hscalar =>
      cases hscalar with
      | null => exact .null
      | bool value => exact .bool value
      | num number => exact .num number
      | str text => exact .str text
  | arr hitems ih =>
      rw [merged, mergedItems_eq_map]
      exact .arr (List.forall_mem_map.mpr ih)
  | obj hmembers ih =>
      obtain ⟨hkeys, hfits⟩ := mergedMembers_spec [] List.nodup_nil (by simp) ih
      exact .obj hkeys hfits

end Merging

/-! ### What is read -/

/-- A value that is read lies no deeper than the reader goes, and repeats no key. -/
theorem fits_of_read? {text : String} (hread : read? text = some value) : value.Fits maxDepth := by
  rw [read?] at hread
  obtain ⟨tokens, htokens, htake⟩ := Option.bind_eq_some_iff.mp hread
  split at htake
  · next found hfound =>
      have hscalars := holdScalars_of_tokensWithin? htokens
      cases htake
      exact ((readsNested _).value hscalars hfound).1.fits_merged
  · cases htake

/-- Of values whose numbers are read back, those that fit are read back from their compact texts. -/
theorem read?_compact_eq_some_iff (hnumbers : value.HoldsOnly Number.IsReadBack) :
    read? value.compact = some value ↔ value.Fits maxDepth :=
  ⟨fits_of_read?, read?_compact hnumbers⟩

end Json

end DotQuery

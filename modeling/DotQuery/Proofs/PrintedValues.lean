import DotQuery.Json.Reader
import DotQuery.Proofs.PrintedNumbers

/-!
# Printed values

A value is printed as a run of tokens without white space between them, and each token is read back
whatever token follows it, if it is no float that is read as its neighbour. So the compact text of a
value is read as the value, as long as its numbers are read back, no array or object lies too deep
for the reader and no object repeats a key.
-/

namespace DotQuery

namespace Json

variable {value : Json} {items : List Json} {members : List (String × Json)} {depth : Nat}

/-- The parts of a value come before the value. -/
theorem partInduction {motive : Json → Prop} (null : motive .null)
    (bool : ∀ value, motive (.bool value)) (num : ∀ number, motive (.num number))
    (str : ∀ text, motive (.str text))
    (arr : ∀ items, (∀ item ∈ items, motive item) → motive (.arr items))
    (obj : ∀ members, (∀ member ∈ members, motive member.2) → motive (.obj members))
    (value : Json) : motive value := by
  refine @Json.rec motive (fun items => ∀ item ∈ items, motive item)
    (fun members => ∀ member ∈ members, motive member.2) (fun member => motive member.2)
    null bool num str arr obj nofun ?_ nofun ?_ (fun _ _ hvalue => hvalue) value
  · exact fun item rest hitem hrest => List.forall_mem_cons.mpr ⟨hitem, hrest⟩
  · exact fun member rest hmember hrest => List.forall_mem_cons.mpr ⟨hmember, hrest⟩

/-- All numbers in the value are such. -/
inductive HoldsOnly (p : Number → Prop) : Json → Prop where
  | null : HoldsOnly p .null
  | bool (value : Bool) : HoldsOnly p (.bool value)
  | num {number : Number} (hnumber : p number) : HoldsOnly p (.num number)
  | str (text : String) : HoldsOnly p (.str text)
  | arr {items : List Json} (hitems : ∀ item ∈ items, HoldsOnly p item) : HoldsOnly p (.arr items)
  | obj {members : List (String × Json)} (hmembers : ∀ member ∈ members, HoldsOnly p member.2) :
      HoldsOnly p (.obj members)

/-! ### Strings -/

section Strings

variable {c mark : Char} {rest after : List Char} {pieces : List Piece}

theorem numeral?_control (hc : c.toNat < 0x20) :
    Text.numeral? 16 ['0', '0', Nat.digitChar (c.toNat / 16), Nat.digitChar (c.toNat % 16)] =
      some c.toNat := by
  generalize c.toNat = code at hc
  interval_cases code <;> rfl

theorem ofUnit_control (hc : c.toNat < 0x20) : Piece.ofUnit c.toNat = .character c := by
  have hlead : ¬ 0xD800 ≤ c.toNat := by omega
  have htrail : ¬ 0xDC00 ≤ c.toNat := by omega
  simp [Piece.ofUnit, hlead, htrail, Char.ofNat_toNat]

section Piece

variable (hrest : takeString? rest = some (pieces, after))
include hrest

theorem takeString?_named (hmark : escaped? mark = some c) :
    takeString? ('\\' :: mark :: rest) = some (.character c :: pieces, after) := by
  rw [takeString?.eq_3]
  · rw [hmark, hrest]
    rfl
  · rintro a b c d more rfl -
    cases hmark

theorem takeString?_control (hc : c.toNat < 0x20) :
    takeString? ('\\' :: 'u' :: '0' :: '0' :: Nat.digitChar (c.toNat / 16) ::
      Nat.digitChar (c.toNat % 16) :: rest) = some (.character c :: pieces, after) := by
  rw [takeString?, numeral?_control hc, hrest, ← ofUnit_control hc]
  rfl

theorem takeString?_plain (hquote : c ≠ '"') (hbackslash : c ≠ '\\') (hc : ¬ c.toNat < 0x20) :
    takeString? (c :: rest) = some (.character c :: pieces, after) := by
  rw [takeString?.eq_4 c rest hquote (fun _ _ _ _ _ heq => absurd heq hbackslash)
    (fun _ _ heq => absurd heq hbackslash), if_neg, hrest]
  · rfl
  · simpa [hbackslash] using hc

/-- However a character is escaped, it is read back. -/
theorem takeString?_escape (c : Char) :
    takeString? (escape c ++ rest) = some (.character c :: pieces, after) := by
  unfold escape
  split
  · exact takeString?_named hrest rfl
  · exact takeString?_named hrest rfl
  · exact takeString?_named hrest rfl
  · exact takeString?_named hrest rfl
  · exact takeString?_named hrest rfl
  · exact takeString?_named hrest rfl
  · exact takeString?_named hrest rfl
  · next hquote hbackslash _ _ _ _ _ =>
      split
      · next hc => exact takeString?_control hrest hc
      · next hc => exact takeString?_plain hrest hquote hbackslash hc

end Piece

theorem takeString?_flatMap (text rest : List Char) :
    takeString? (text.flatMap escape ++ '"' :: rest) = some (text.map .character, rest) := by
  induction text with
  | nil => exact takeString?.eq_1 rest
  | cons c others ih =>
      rw [List.flatMap_cons, List.append_assoc]
      exact takeString?_escape ih c

theorem joinPieces?_map (text : List Char) : joinPieces? (text.map .character) = some text := by
  induction text with
  | nil => rfl
  | cons c others ih =>
      rw [List.map_cons, joinPieces?, ih]
      rfl

theorem takeToken?_quote (text : String) (rest : List Char) :
    takeToken? (quote text ++ rest) = some (.scalar (.str text), rest) := by
  have htext : quote text ++ rest = '"' :: (text.toList.flatMap escape ++ '"' :: rest) := by
    simp [quote]
  rw [htext, takeToken?, takeString?_flatMap]
  simp [Token.ofPieces, joinPieces?_map]

end Strings

/-! ### Characters -/

/-- No control character stands in the text. -/
def LacksControls (text : List Char) : Prop :=
  ∀ c ∈ text, 0x20 ≤ c.toNat

section Characters

variable {c : Char} {first second : List Char}

theorem LacksControls.append (hfirst : LacksControls first) (hsecond : LacksControls second) :
    LacksControls (first ++ second) :=
  List.forall_mem_append.mpr ⟨hfirst, hsecond⟩

theorem LacksControls.cons (hsecond : LacksControls second) (hc : 0x20 ≤ c.toNat) :
    LacksControls (c :: second) :=
  List.forall_mem_cons.mpr ⟨hc, hsecond⟩

theorem lacksControls_singleton (hc : 0x20 ≤ c.toNat) : LacksControls [c] :=
  List.forall_mem_singleton.mpr hc

theorem lacksControls_escape (c : Char) : LacksControls (escape c) := by
  have hdigit {n : Nat} (hn : n < 16) : 0x20 ≤ n.digitChar.toNat := by
    interval_cases n <;> decide
  unfold escape
  split
  case h_8 =>
    split
    · next hcontrol =>
        have hhigh : c.toNat / 16 < 16 := by omega
        have hlow : c.toNat % 16 < 16 := by omega
        have hmarks : LacksControls ['\\', 'u', '0', '0'] := by simp [LacksControls]
        exact hmarks.append ((lacksControls_singleton (hdigit hlow)).cons (hdigit hhigh))
    · next hplain => exact lacksControls_singleton (Nat.le_of_not_lt hplain)
  all_goals simp [LacksControls]

theorem lacksControls_quote (text : String) : LacksControls (quote text) := by
  have hescaped : LacksControls (text.toList.flatMap escape) := by
    intro c hc
    obtain ⟨d, -, hd⟩ := List.mem_flatMap.mp hc
    exact lacksControls_escape d c hd
  exact (hescaped.append (lacksControls_singleton (by decide))).cons (by decide)

theorem lacksControls_number (number : Number) : LacksControls number.write := by
  have hmarks : LacksControls ['-', '+', '.', 'e'] := by simp [LacksControls]
  intro c hc
  rcases mem_number_write hc with hdigit | hmark
  · exact le_trans (by decide) (Text.toNat_of_isDigit hdigit).1
  · exact hmarks c hmark

theorem lacksControls_writeItems (hitems : ∀ item ∈ items, LacksControls item.write) :
    LacksControls (writeItems items) := by
  induction items with
  | nil => exact lacksControls_singleton (by decide)
  | cons item rest ih =>
      rw [List.forall_mem_cons] at hitems
      cases rest with
      | nil => exact hitems.1.append (lacksControls_singleton (by decide))
      | cons next more => exact hitems.1.append ((ih hitems.2).cons (by decide))

theorem lacksControls_writeMembers (hmembers : ∀ member ∈ members, LacksControls member.2.write) :
    LacksControls (writeMembers members) := by
  induction members with
  | nil => exact lacksControls_singleton (by decide)
  | cons member rest ih =>
      obtain ⟨key, value⟩ := member
      rw [List.forall_mem_cons] at hmembers
      cases rest with
      | nil =>
          have hvalue := hmembers.1.append (lacksControls_singleton (c := '\x7d') (by decide))
          exact (lacksControls_quote key).append (hvalue.cons (by decide))
      | cons next more =>
          have hvalue := hmembers.1.append ((ih hmembers.2).cons (c := ',') (by decide))
          exact (lacksControls_quote key).append (hvalue.cons (by decide))

/-- Control characters inside strings are escaped, and none stands between the tokens. -/
theorem lacksControls_write (value : Json) : LacksControls value.write := by
  induction value using partInduction with
  | null => simp [LacksControls, write, writeNull]
  | bool value => cases value <;> simp [LacksControls, write, writeBool]
  | num number => exact lacksControls_number number
  | str text => exact lacksControls_quote text
  | arr items ih => exact (lacksControls_writeItems ih).cons (by decide)
  | obj members ih => exact (lacksControls_writeMembers ih).cons (by decide)

end Characters

/-! ### Tokens -/

mutual

/-- The tokens that a value is printed as. -/
def tokens : Json → List Token
  | .arr items => .openArray :: itemTokens items
  | .obj members => .openObject :: memberTokens members
  | value => [.scalar value]

def itemTokens : List Json → List Token
  | [] => [.closeArray]
  | [item] => tokens item ++ [.closeArray]
  | item :: rest => tokens item ++ .comma :: itemTokens rest

def memberTokens : List (String × Json) → List Token
  | [] => [.closeObject]
  | [(key, value)] => .scalar (.str key) :: .colon :: (tokens value ++ [.closeObject])
  | (key, value) :: rest =>
    .scalar (.str key) :: .colon :: (tokens value ++ .comma :: memberTokens rest)

end

/-- In front of `rest` the text is these tokens, each at least one character long. -/
structure Scans (text : List Char) (tokens : List Token) (rest : List Char) : Prop where
  length_le : tokens.length ≤ text.length
  tokensWithin?_eq (fuel : Nat) : tokensWithin? (fuel + tokens.length) (text ++ rest) =
    (tokensWithin? fuel rest).map (tokens ++ ·)

section Scans

variable {word first second rest : List Char} {token : Token}
  {firstTokens secondTokens : List Token}

theorem scans_token {c : Char} {others : List Char} (hspace : isSpace c = false)
    (htake : takeToken? (c :: others ++ rest) = some (token, rest)) :
    Scans (c :: others) [token] rest where
  length_le := by simp
  tokensWithin?_eq fuel := by
    have hdrop : (c :: others ++ rest).dropWhile isSpace = c :: others ++ rest :=
      List.dropWhile_cons_of_neg (by simp [hspace])
    rw [List.length_singleton, tokensWithin?, hdrop]
    rw [List.cons_append] at htake ⊢
    dsimp only
    rw [htake, Option.map_eq_bind]
    rfl

/-- The token of a bracket, a comma or a colon. -/
theorem scans_mark {c : Char} (hspace : isSpace c = false) (rest : List Char)
    (htake : takeToken? (c :: rest) = some (token, rest)) : Scans [c] [token] rest :=
  scans_token hspace htake

theorem Scans.append (hfirst : Scans first firstTokens (second ++ rest))
    (hsecond : Scans second secondTokens rest) :
    Scans (first ++ second) (firstTokens ++ secondTokens) rest where
  length_le := by
    rw [List.length_append, List.length_append]
    exact Nat.add_le_add hfirst.length_le hsecond.length_le
  tokensWithin?_eq fuel := by
    have hfuel : fuel + (firstTokens ++ secondTokens).length =
        fuel + secondTokens.length + firstTokens.length := by
      rw [List.length_append, Nat.add_comm firstTokens.length, Nat.add_assoc]
    rw [hfuel, List.append_assoc, hfirst.tokensWithin?_eq, hsecond.tokensWithin?_eq,
      Option.map_map]
    congr 1
    funext others
    exact (List.append_assoc _ _ _).symm

theorem Scans.cons {c : Char} (hspace : isSpace c = false)
    (htake : takeToken? (c :: (second ++ rest)) = some (token, second ++ rest))
    (hsecond : Scans second secondTokens rest) :
    Scans (c :: second) (token :: secondTokens) rest :=
  (scans_mark hspace _ htake).append hsecond

end Scans

theorem isSpace_of_isDigit {c : Char} (hc : c.isDigit = true) : isSpace c = false := by
  rw [Bool.eq_false_iff]
  intro hspace
  simp only [isSpace, Bool.or_eq_true, beq_iff_eq] at hspace
  rcases hspace with ((rfl | rfl) | rfl) | rfl <;> cases hc

theorem scans_number {number : Number} (hnumber : number.IsReadBack) {rest : List Char}
    (hrest : Numeral.EndsNumber rest) : Scans number.write [.scalar (.num number)] rest := by
  have hread := takeNumber?_printed hnumber hrest
  obtain ⟨c, others, hwrite, hc⟩ := exists_number_write_eq_cons number
  rw [hwrite] at hread ⊢
  apply scans_token
  · rcases hc with rfl | hdigit
    · rfl
    · exact isSpace_of_isDigit hdigit
  · rw [takeToken?.eq_11, hread]
    · rfl
    all_goals
      intro more heq
      rw [List.cons_append, List.cons.injEq] at heq
      obtain ⟨rfl, -⟩ := heq
      rcases hc with hc | hc <;> cases hc

theorem scans_quote (text : String) (rest : List Char) :
    Scans (quote text) [.scalar (.str text)] rest :=
  scans_token rfl (takeToken?_quote text rest)

theorem endsNumber_cons {c : Char} {rest : List Char}
    (hc : c.isDigit = false ∧ c ≠ '.' ∧ c ≠ 'e' ∧ c ≠ 'E') : Numeral.EndsNumber (c :: rest) := by
  rintro _ ⟨⟩
  exact hc

/-- Values, followed by something that is no part of a number, are scanned one by one. -/
def IsScanned (value : Json) : Prop :=
  ∀ rest, Numeral.EndsNumber rest → Scans value.write value.tokens rest

theorem scans_writeItems (hitems : ∀ item ∈ items, item.IsScanned) (rest : List Char) :
    Scans (writeItems items) (itemTokens items) rest := by
  induction items with
  | nil => exact scans_mark rfl rest rfl
  | cons item others ih =>
      rw [List.forall_mem_cons] at hitems
      cases others with
      | nil => exact (hitems.1 _ (endsNumber_cons (by decide))).append (scans_mark rfl rest rfl)
      | cons next more =>
          have hrest : Scans (',' :: writeItems (next :: more))
              (.comma :: itemTokens (next :: more)) rest :=
            (ih hitems.2).cons rfl rfl
          exact (hitems.1 _ (endsNumber_cons (by decide))).append hrest

theorem scans_writeMembers (hmembers : ∀ member ∈ members, member.2.IsScanned)
    (rest : List Char) : Scans (writeMembers members) (memberTokens members) rest := by
  induction members with
  | nil => exact scans_mark rfl rest rfl
  | cons member others ih =>
      obtain ⟨key, value⟩ := member
      rw [List.forall_mem_cons] at hmembers
      cases others with
      | nil =>
          apply (scans_quote key _).append
          apply Scans.cons rfl rfl
          exact (hmembers.1 _ (endsNumber_cons (by decide))).append (scans_mark rfl rest rfl)
      | cons next more =>
          have hrest : Scans (',' :: writeMembers (next :: more))
              (.comma :: memberTokens (next :: more)) rest :=
            (ih hmembers.2).cons rfl rfl
          apply (scans_quote key _).append
          apply Scans.cons rfl rfl
          exact (hmembers.1 _ (endsNumber_cons (by decide))).append hrest

theorem HoldsOnly.isScanned (hnumbers : value.HoldsOnly Number.IsReadBack) : value.IsScanned := by
  intro rest hrest
  induction hnumbers generalizing rest with
  | null => exact scans_token rfl rfl
  | bool value => cases value <;> exact scans_token rfl rfl
  | num hnumber => exact scans_number hnumber hrest
  | str text => exact scans_quote text rest
  | arr hitems ih => exact (scans_writeItems ih rest).cons rfl rfl
  | obj hmembers ih => exact (scans_writeMembers ih rest).cons rfl rfl

theorem tokens?_write (hnumbers : value.HoldsOnly Number.IsReadBack) :
    tokens? value.write = some value.tokens := by
  have hscans := hnumbers.isScanned [] nofun
  obtain ⟨fuel, hfuel⟩ : ∃ fuel, value.write.length + 1 = fuel + 1 + value.tokens.length :=
    ⟨value.write.length - value.tokens.length, by have := hscans.length_le; omega⟩
  have hscan := hscans.tokensWithin?_eq (fuel + 1)
  rw [List.append_nil] at hscan
  rw [tokens?, hfuel, hscan]
  exact congrArg some (List.append_nil _)

/-! ### Values -/

/-- Arrays and objects lie at most `depth` deep inside one another, and no object repeats a key. -/
inductive Fits : Nat → Json → Prop where
  | null {depth : Nat} : Fits depth .null
  | bool {depth : Nat} (value : Bool) : Fits depth (.bool value)
  | num {depth : Nat} (number : Number) : Fits depth (.num number)
  | str {depth : Nat} (text : String) : Fits depth (.str text)
  | arr {depth : Nat} {items : List Json} (hitems : ∀ item ∈ items, Fits depth item) :
      Fits (depth + 1) (.arr items)
  | obj {depth : Nat} {members : List (String × Json)} (hkeys : (members.map Prod.fst).Nodup)
      (hmembers : ∀ member ∈ members, Fits depth member.2) : Fits (depth + 1) (.obj members)

/-- From enough fuel the value is taken off the tokens in front of which it stands. -/
def IsTaken (depth : Nat) (value : Json) : Prop :=
  ∀ (rest : List Token) (fuel : Nat), value.tokens.length ≤ fuel →
    takeValue? depth fuel (value.tokens ++ rest) = some (value, rest)

section Values

variable {item : Json} {tokens more rest : List Token} {key : String} {fuel : Nat}

theorem takeItems?_last (hitem : takeValue? depth fuel tokens = some (item, .closeArray :: rest)) :
    takeItems? depth (fuel + 1) tokens = some ([item], rest) := by
  rw [takeItems?, hitem]
  rfl

theorem takeItems?_more (hitem : takeValue? depth fuel tokens = some (item, .comma :: more))
    (hmore : takeItems? depth fuel more = some (items, rest)) :
    takeItems? depth (fuel + 1) tokens = some (item :: items, rest) := by
  rw [takeItems?, hitem, Option.bind_eq_bind, Option.bind_some]
  dsimp only
  rw [hmore]
  rfl

theorem takeMembers?_last
    (hvalue : takeValue? depth fuel tokens = some (value, .closeObject :: rest)) :
    takeMembers? depth (fuel + 1) (.scalar (.str key) :: .colon :: tokens) =
      some ([(key, value)], rest) := by
  rw [takeMembers?, hvalue]
  rfl

theorem takeMembers?_more (hvalue : takeValue? depth fuel tokens = some (value, .comma :: more))
    (hmore : takeMembers? depth fuel more = some (members, rest)) :
    takeMembers? depth (fuel + 1) (.scalar (.str key) :: .colon :: tokens) =
      some ((key, value) :: members, rest) := by
  rw [takeMembers?, hvalue, Option.bind_eq_bind, Option.bind_some]
  dsimp only
  rw [hmore]
  rfl

theorem takeItems?_itemTokens (rest : List Token) (hne : items ≠ [])
    (hitems : ∀ item ∈ items, item.IsTaken depth)
    (hfuel : (itemTokens items).length ≤ fuel) :
    takeItems? depth fuel (itemTokens items ++ rest) = some (items, rest) := by
  induction items generalizing fuel with
  | nil => exact absurd rfl hne
  | cons item others ih =>
      rw [List.forall_mem_cons] at hitems
      cases others with
      | nil =>
          have htokens : itemTokens [item] = item.tokens ++ [.closeArray] := rfl
          rw [htokens, List.length_append, List.length_singleton] at hfuel
          obtain ⟨fuel, rfl⟩ := Nat.exists_eq_add_of_le' (Nat.le_of_add_left_le hfuel)
          rw [htokens, List.append_assoc]
          exact takeItems?_last (hitems.1 _ fuel (by omega))
      | cons next more =>
          have htokens : itemTokens (item :: next :: more) =
              item.tokens ++ .comma :: itemTokens (next :: more) := rfl
          rw [htokens, List.length_append, List.length_cons] at hfuel
          obtain ⟨fuel, rfl⟩ : ∃ less, fuel = less + 1 := ⟨fuel - 1, by omega⟩
          rw [htokens, List.append_assoc]
          exact takeItems?_more (hitems.1 _ fuel (by omega))
            (ih (List.cons_ne_nil _ _) hitems.2 (by omega))

theorem takeMembers?_memberTokens (rest : List Token) (hne : members ≠ [])
    (hmembers : ∀ member ∈ members, member.2.IsTaken depth)
    (hfuel : (memberTokens members).length ≤ fuel) :
    takeMembers? depth fuel (memberTokens members ++ rest) = some (members, rest) := by
  induction members generalizing fuel with
  | nil => exact absurd rfl hne
  | cons member others ih =>
      obtain ⟨key, value⟩ := member
      rw [List.forall_mem_cons] at hmembers
      have hvalue : value.IsTaken depth := hmembers.1
      cases others with
      | nil =>
          have htokens : memberTokens [(key, value)] =
              .scalar (.str key) :: .colon :: (value.tokens ++ [.closeObject]) := rfl
          rw [htokens, List.length_cons, List.length_cons, List.length_append] at hfuel
          obtain ⟨fuel, rfl⟩ : ∃ less, fuel = less + 1 := ⟨fuel - 1, by omega⟩
          rw [htokens, List.cons_append, List.cons_append, List.append_assoc]
          exact takeMembers?_last (hvalue _ fuel (by omega))
      | cons next more =>
          have htokens : memberTokens ((key, value) :: next :: more) = .scalar (.str key) ::
              .colon :: (value.tokens ++ .comma :: memberTokens (next :: more)) := rfl
          rw [htokens, List.length_cons, List.length_cons, List.length_append,
            List.length_cons] at hfuel
          obtain ⟨fuel, rfl⟩ : ∃ less, fuel = less + 1 := ⟨fuel - 1, by omega⟩
          rw [htokens, List.cons_append, List.cons_append, List.append_assoc]
          exact takeMembers?_more (hvalue _ fuel (by omega))
            (ih (List.cons_ne_nil _ _) hmembers.2 (by omega))

/-- Items do not start with what closes their array. -/
theorem itemTokens_cons_ne_closeArray (item : Json) (items : List Json) (tokens rest : List Token) :
    itemTokens (item :: items) ++ tokens ≠ .closeArray :: rest := by
  obtain ⟨behind, hbehind⟩ : ∃ behind, itemTokens (item :: items) = item.tokens ++ behind := by
    cases items with
    | nil => exact ⟨_, rfl⟩
    | cons next more => exact ⟨_, rfl⟩
  intro heq
  rw [hbehind, List.append_assoc] at heq
  cases item <;> cases heq

theorem isTaken_scalar (htokens : value.tokens = [.scalar value]) : value.IsTaken depth := by
  intro rest fuel hfuel
  rw [htokens, List.length_singleton] at hfuel
  obtain ⟨fuel, rfl⟩ := Nat.exists_eq_add_of_le' hfuel
  rw [htokens]
  rfl

theorem isTaken_arr (hitems : ∀ item ∈ items, item.IsTaken depth) :
    (arr items).IsTaken (depth + 1) := by
  intro rest fuel hfuel
  have htokens : (arr items).tokens = .openArray :: itemTokens items := rfl
  rw [htokens, List.length_cons] at hfuel
  obtain ⟨fuel, rfl⟩ : ∃ less, fuel = less + 1 := ⟨fuel - 1, by omega⟩
  rw [htokens, List.cons_append]
  cases items with
  | nil => rfl
  | cons item others =>
      have htake := takeItems?_itemTokens rest (List.cons_ne_nil _ _) hitems
        (Nat.le_of_succ_le_succ hfuel)
      rw [takeValue?.eq_5 _ _ _ fun more => itemTokens_cons_ne_closeArray item others rest more,
        if_neg (Nat.succ_ne_zero _), Nat.add_sub_cancel, htake]
      rfl

theorem isTaken_obj (hmembers : ∀ member ∈ members, member.2.IsTaken depth) :
    (obj members).IsTaken (depth + 1) := by
  intro rest fuel hfuel
  have htokens : (obj members).tokens = .openObject :: memberTokens members := rfl
  rw [htokens, List.length_cons] at hfuel
  obtain ⟨fuel, rfl⟩ : ∃ less, fuel = less + 1 := ⟨fuel - 1, by omega⟩
  rw [htokens, List.cons_append]
  cases members with
  | nil => rfl
  | cons member others =>
      have htake := takeMembers?_memberTokens rest (List.cons_ne_nil _ _) hmembers
        (Nat.le_of_succ_le_succ hfuel)
      rw [takeValue?.eq_6, if_neg (Nat.succ_ne_zero _), Nat.add_sub_cancel, htake]
      · rfl
      · intro more heq
        cases others <;> cases heq

theorem Fits.isTaken (hfits : value.Fits depth) : value.IsTaken depth := by
  induction hfits with
  | null => exact isTaken_scalar rfl
  | bool value => exact isTaken_scalar rfl
  | num number => exact isTaken_scalar rfl
  | str text => exact isTaken_scalar rfl
  | arr hitems ih => exact isTaken_arr ih
  | obj hkeys hmembers ih => exact isTaken_obj ih

end Values

/-! ### Repeated keys -/

theorem mergedItems_eq_self (hitems : ∀ item ∈ items, item.merged = item) :
    mergedItems items = items := by
  induction items with
  | nil => rfl
  | cons item rest ih =>
      rw [List.forall_mem_cons] at hitems
      rw [mergedItems, hitems.1, ih hitems.2]

theorem mergedMembers_eq_append (done : List (String × Json))
    (hkeys : ((done ++ members).map Prod.fst).Nodup)
    (hmembers : ∀ member ∈ members, member.2.merged = member.2) :
    mergedMembers done members = done ++ members := by
  induction members generalizing done with
  | nil => rw [mergedMembers, List.append_nil]
  | cons member rest ih =>
      obtain ⟨key, value⟩ := member
      rw [List.forall_mem_cons] at hmembers
      have hsplit : done ++ (key, value) :: rest = done ++ [(key, value)] ++ rest := by simp
      have hfresh : key ∉ done.map Prod.fst := by
        rw [List.map_append, List.map_cons, List.nodup_append] at hkeys
        exact fun hmem => hkeys.2.2 key hmem key List.mem_cons_self rfl
      rw [mergedMembers, hmembers.1, insertMember_of_not_mem hfresh, hsplit]
      rw [hsplit] at hkeys
      exact ih _ hkeys hmembers.2

theorem Fits.merged_eq (hfits : value.Fits depth) : value.merged = value := by
  induction hfits with
  | null => rfl
  | bool value => rfl
  | num number => rfl
  | str text => rfl
  | arr hitems ih => rw [merged, mergedItems_eq_self ih]
  | obj hkeys hmembers ih => rw [merged, mergedMembers_eq_append [] hkeys ih, List.nil_append]

/-! ### Reading back -/

/-- The compact text of a value that fits into the reader is read as the value. -/
theorem read?_compact (hnumbers : value.HoldsOnly Number.IsReadBack)
    (hfits : value.Fits maxDepth) : read? value.compact = some value := by
  have htake := hfits.isTaken [] (2 * value.tokens.length + 1) (by omega)
  rw [List.append_nil] at htake
  rw [read?, compact, String.toList_ofList, tokens?_write hnumbers, Option.bind_eq_bind,
    Option.bind_some, htake]
  exact congrArg some hfits.merged_eq

end Json

end DotQuery

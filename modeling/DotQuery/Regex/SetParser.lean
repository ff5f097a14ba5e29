import DotQuery.Regex.Escape

/-!
Reading sets of characters in brackets: characters, ranges, classes and further brackets, and the
operations between such lists.
-/

namespace DotQuery.Regex

inductive SetOperation where
  | intersection
  | difference
  | symmetricDifference

def SetOperation.apply : SetOperation → CharSet → CharSet → CharSet
  | intersection => .intersection
  | difference => .difference
  | symmetricDifference => .symmetricDifference

def setOperation? : List Char → Option SetOperation
  | '&' :: '&' :: _ => some .intersection
  | '-' :: '-' :: _ => some .difference
  | '~' :: '~' :: _ => some .symmetricDifference
  | _ => none

/-- The named set that `text` starts with, after its opening bracket. -/
def namedSet? (text : List Char) : Option (Bool × CharSet × List Char) := do
  let rest ← match text with
    | ':' :: rest => some rest
    | _ => none
  let (negated, rest) := match rest with
    | '^' :: rest => (true, rest)
    | _ => (false, rest)
  let name := rest.takeWhile (· != ':')
  let set ← CharSet.named? (String.ofList name)
  match rest.drop name.length with
  | ':' :: ']' :: rest => some (negated, set, rest)
  | _ => none

/-! ### Items -/

/-- One end of a range: a character, or a set that can be no end. -/
def readSetItem : PatternReader Escaped := do
  match ← peek with
  | [] => throw .unclosedSet
  | '\\' :: _ => readEscape
  | c :: _ =>
    skip 1
    return .character c

def itemCharacter (flags : Flags) : Escaped → Except Malformation Char
  | .character c =>
    if flags.asciiOnly && 128 ≤ c.toNat then .error .beyondAscii else .ok c
  | _ => .error .boundNotCharacter

def itemSet (flags : Flags) : Escaped → Except Malformation CharSet
  | .set set => .ok set
  | .anchor _ => .error .unknownEscape
  | item => CharSet.single <$> itemCharacter flags item

/-- The character behind a hyphen, past white space and the mark of a comment where the flags say
that they have no meaning. -/
def behindHyphen (flags : Flags) (text : List Char) : Option Char :=
  if !flags.ignoreSpace then text.head?
  else
    let seen := match text.dropWhile Text.isBlank with
      | '#' :: rest => rest.dropWhile Text.isBlank
      | rest => rest
    seen.head? <|> text.head?

/-- A single item or a range; a hyphen before the closing bracket or another hyphen is none. -/
def readSetRange : PatternReader CharSet := do
  let flags ← flagsInForce
  let first ← readSetItem
  skipSpace
  match ← peek with
  | [] => throw .unclosedSet
  | '-' :: rest =>
    let next := behindHyphen flags rest
    if next == some ']' || next == some '-' then itemSet flags first
    else
      advance
      let last ← readSetItem
      let first ← itemCharacter flags first
      let last ← itemCharacter flags last
      if first.toNat ≤ last.toNat then return ⟨[(first.toNat, last.toNat)]⟩
      else throw .reversedRange
  | _ => itemSet flags first

/-! ### Lists of items -/

/-- The items of a list so far: their characters, their number, and how deep brackets are nested in
them. -/
structure SetItems where
  ranges : List (Nat × Nat)
  count : Nat
  depth : Nat

namespace SetItems

def none : SetItems :=
  ⟨[], 0, 0⟩

def add (items : SetItems) (set : CharSet) (depth : Nat) : SetItems :=
  ⟨set.ranges ++ items.ranges, items.count + 1, max items.depth depth⟩

/-- A list of several items is one level deeper than they are. -/
def totalDepth (items : SetItems) : Nat :=
  if items.count < 2 then items.depth else items.depth + 1

end SetItems

structure NestedSet where
  set : CharSet
  depth : Nat

/-- What has been read of a set: the value and operator of its operations, and the items since. -/
structure PartialSet where
  pending : Option (NestedSet × SetOperation)
  items : SetItems

/-- The set that the parts make up. Case variants join each operand before the operation. -/
def PartialSet.value (flags : Flags) (parts : PartialSet) : NestedSet :=
  let last := flags.fold (.ofRanges parts.items.ranges)
  match parts.pending with
  | some (first, operation) =>
    ⟨operation.apply first.set last, max first.depth parts.items.totalDepth + 1⟩
  | none => ⟨last, parts.items.totalDepth⟩

/-- The hyphens that are literal at the start of a set; `fuel` bounds their number. -/
def readHyphens : Nat → SetItems → PatternReader SetItems
  | 0, items => return items
  | fuel + 1, items => do
    match ← peek with
    | '-' :: _ =>
      advance
      readHyphens fuel (items.add (.single '-') 0)
    | _ => return items

/-- The items that are literal at the start of a set: hyphens, or else the closing bracket. -/
def readSetStart : PatternReader SetItems := do
  let items ← readHyphens (← peek).length .none
  match items.count, ← peek with
  | 0, ']' :: _ =>
    advance
    return items.add (.single ']') 0
  | _, _ => return items

mutual

/-- The items of a set up to its closing bracket. -/
def readSetItems (fuel : Nat) (parts : PartialSet) : PatternReader NestedSet := do
  match fuel with
  | 0 => throw .unclosedSet
  | fuel + 1 =>
    skipSpace
    let flags ← flagsInForce
    let add (set : CharSet) (depth : Nat) : PartialSet :=
      { parts with items := parts.items.add set depth }
    match ← peek with
    | [] => throw .unclosedSet
    | ']' :: _ =>
      skip 1
      return parts.value flags
    | '[' :: rest =>
      match namedSet? rest with
      | some (negated, set, after) =>
        modify fun state => { state with rest := after }
        readSetItems fuel (add (← flags.negate negated (flags.fold set)) 0)
      | none =>
        let inner ← readSet fuel
        readSetItems fuel (add inner.set inner.depth)
    | rest =>
      match setOperation? rest with
      | some operation =>
        skip 2
        readSetItems fuel ⟨some (parts.value flags, operation), .none⟩
      | none =>
        let set ← readSetRange
        readSetItems fuel (add set 0)

/-- A set in brackets, one level deeper than what they hold. -/
def readSet (fuel : Nat) : PatternReader NestedSet := do
  match fuel with
  | 0 => throw .unclosedSet
  | fuel + 1 =>
    advance
    let negated := (← peek).head? == some '^'
    if negated then advance
    let start ← readSetStart
    let inner ← readSetItems fuel ⟨none, start⟩
    let flags ← flagsInForce
    return ⟨← flags.negate negated inner.set, inner.depth + 1⟩

end

end DotQuery.Regex

import DotQuery.Regex.ByteRange
import DotQuery.Regex.Pattern

/-!
The room that a pattern takes as an automaton over bytes. A pattern is only accepted if both its
automata, the one that reads a text forward and the one that reads it backward, fit into ten
mebibytes. What counts is each state, each labelled edge of a state with several of them, and each
link from a fork to one of its ways. Building stops at the first state that does not fit, so counts
of millions of rounds cost no more than the room there is.
-/

namespace DotQuery.Regex

structure Footprint where
  states : Nat
  /-- The bytes of edges and links. -/
  edgeBytes : Nat

namespace Footprint

def capacity : Nat := 10 * 1024 * 1024

def bytes (size : Footprint) : Nat :=
  32 * size.states + size.edgeBytes

end Footprint

inductive Direction where
  | forward
  | backward
deriving DecidableEq

/-- Building an automaton, of which only the size is kept; it ends where the room does. -/
abbrev Builder := StateT Footprint Option

namespace Builder

def take (states edgeBytes : Nat) : Builder Unit := fun size =>
  let size := ⟨size.states + states, size.edgeBytes + edgeBytes⟩
  if Footprint.bytes size ≤ Footprint.capacity then some ((), size) else none

def addStates (count : Nat) : Builder Unit :=
  take count 0

/-- A new state, as its number. -/
def addState : Builder Nat := do
  let number := (← get).states
  take 1 0
  return number

def addEdges (count : Nat) : Builder Unit :=
  take 0 (8 * count)

def addLinks (count : Nat) : Builder Unit :=
  take 0 (4 * count)

/-- Links the end of a part to a state, which takes room if the part ends in a fork. -/
def close (endsInFork : Bool) : Builder Unit :=
  addLinks (if endsInFork then 1 else 0)

end Builder

/-! ### Sets of characters

The edges of a set are shared as far as two bounded tables remember them. A table has one place for
each remainder of a hash, and a later entry replaces an earlier one. -/

structure Edge where
  range : ByteRange
  target : Nat
deriving DecidableEq

def mixHash (hash value : UInt64) : UInt64 :=
  (hash ^^^ value) * 1099511628211

def hashStart : UInt64 := 14695981039346656037

abbrev Slots (κ : Type) := Array (Option (κ × Nat))

abbrev SharingBuilder (κ : Type) := StateT (Slots κ) Builder

/-- The state that a table has for a key, or else the one that is built for it. -/
def share [DecidableEq κ] (hash : UInt64) (key : κ) (build : Builder Nat) :
    SharingBuilder κ Nat := do
  let slot ← modifyGet fun slots : Slots κ => (hash.toNat % slots.size, slots)
  match ← modifyGet fun slots : Slots κ => (slots.getD slot none, slots) with
  | some (known, state) =>
    if known = key then return state
  | none => pure ()
  let state ← build
  modify fun slots => slots.setIfInBounds slot (some (key, state))
  return state

/-- A state with the given edges. -/
def shareNode (edges : List Edge) : SharingBuilder (List Edge) Nat :=
  let hash := edges.foldl (fun hash edge =>
    mixHash (mixHash (mixHash hash (.ofNat edge.range.first)) (.ofNat edge.range.last))
      (.ofNat edge.target)) hashStart
  share hash edges do
    let state ← Builder.addState
    Builder.addEdges edges.length
    return state

/-- The edges for the first bytes of sequences, all of which lead to `last`; `depth` bounds their
lengths. -/
def addTree (last : Nat) : Nat → List (List ByteRange) → SharingBuilder (List Edge) (List Edge)
  | 0, _ => return []
  | depth + 1, sequences =>
    (sequences.splitBy fun a b => a.head? == b.head?).filterMapM fun similar => do
      match similar with
      | [range] :: _ => return some ⟨range, last⟩
      | (range :: _) :: _ =>
        let edges ← addTree last depth (similar.map List.tail)
        return some ⟨range, ← shareNode edges⟩
      | _ => return none

/-- The states for the bytes of one sequence, the last of them first read. -/
def addChain (last : Nat) (sequence : List ByteRange) :
    SharingBuilder (Nat × ByteRange) Unit := do
  let _ ← sequence.foldlM (fun state range =>
    let hash := mixHash (mixHash (mixHash hashStart (.ofNat state)) (.ofNat range.first))
      (.ofNat range.last)
    share hash (state, range) Builder.addState) last
  Builder.addLinks 1

def CharSet.build (direction : Direction) (set : CharSet) : Builder Unit := do
  if set.isAscii then
    Builder.addStates 2
    Builder.addEdges set.ranges.length
  else
    let sequences := set.ranges.flatMap byteSequences
    match direction with
    | .forward =>
      let last ← Builder.addState
      let nodes := addTree last 4 sequences >>= shareNode
      let _ ← nodes.run (Array.replicate 10000 none)
    | .backward =>
      Builder.addStates 1
      let last ← Builder.addState
      let _ ← (sequences.forM (addChain last)).run (Array.replicate 1000 none)

/-! ### Choices of texts

A choice of nothing but texts is built as a tree of their bytes. -/

/-- The texts before, between and behind the empty ones, which end a match at a node of the tree.
An empty text at a node without edges that already ends a match adds nothing. -/
def splitAtEnds (closed : List (List (List Nat))) (current : List (List Nat)) :
    List (List Nat) → List (List (List Nat)) × List (List Nat)
  | [] => (closed.reverse, current.reverse)
  | [] :: rest =>
    if current.isEmpty && !closed.isEmpty && closed.all List.isEmpty then
      splitAtEnds closed current rest
    else splitAtEnds (current.reverse :: closed) [] rest
  | text :: rest => splitAtEnds closed (text :: current) rest

/-- The states of a node below which `texts` stand; `depth` bounds their lengths. -/
def addTextTree : Nat → List (List Nat) → Builder Unit
  | 0, _ => return
  | depth + 1, texts => do
    let (closed, current) := splitAtEnds [] [] texts
    let groups := (closed ++ [current]).filter fun group => !group.isEmpty
    for group in groups do
      let heads := (group.filterMap List.head?).eraseDups
      for head in heads do
        let below := (group.filter (·.head? == some head)).map List.tail
        if below.any fun text => !text.isEmpty then addTextTree depth below
      Builder.addStates 1
      Builder.addEdges (if heads.length = 1 then 0 else heads.length)
    Builder.addStates 1
    Builder.addLinks (groups.length + closed.length)

/-! ### Patterns -/

def literalBytes (text : List Char) : List Nat :=
  text.flatMap fun c => utf8Bytes c.toNat

/-- The bytes of the branches of a choice, if all of them are texts. -/
def literals? (branches : List Pattern) : Option (List (List Nat)) :=
  branches.mapM fun
    | .literal text => some (literalBytes text)
    | _ => none

/-- `count` copies of a part, one behind the other. -/
def buildCopies (body : Builder Bool) : Nat → Builder Bool
  | 0 => do
    Builder.addStates 1
    return false
  | 1 => body
  | count + 2 => do
    Builder.close (← body)
    buildCopies body (count + 1)

/-- `count` copies of a part, each of which may be left out with those behind it. -/
def buildOptional (body : Builder Bool) (endsInFork : Bool) : Nat → Builder Unit
  | 0 => Builder.close endsInFork
  | count + 1 => do
    Builder.addStates 1
    let bodyEnds ← body
    Builder.close endsInFork
    Builder.addLinks 2
    buildOptional body bodyEnds count

def buildRepetition (least : Nat) (most : Option Nat) (takesCharacter : Bool)
    (body : Builder Bool) : Builder Bool := do
  match least, most with
  | 0, some 1 =>
    Builder.addStates 1
    let ends ← body
    Builder.addStates 1
    Builder.addLinks 2
    Builder.close ends
    return false
  | 0, none =>
    if takesCharacter then
      Builder.addStates 1
      let ends ← body
      Builder.addLinks 1
      Builder.close ends
      return true
    else
      let ends ← body
      Builder.addStates 3
      Builder.close ends
      Builder.addLinks 4
      return false
  | 1, none =>
    let ends ← body
    Builder.addStates 1
    Builder.close ends
    Builder.addLinks 1
    return true
  | least, none =>
    Builder.close (← buildCopies body (least - 1))
    let ends ← body
    Builder.addStates 1
    Builder.close ends
    Builder.addLinks 1
    return true
  | least, some most =>
    let ends ← buildCopies body least
    if least = most then return ends
    Builder.addStates 1
    buildOptional body ends (most - least)
    return false

namespace Pattern

mutual

/-- Builds a pattern and says whether it ends in a fork, one way of which is still to be linked. -/
def build (direction : Direction) : Pattern → Builder Bool
  | empty | anchor _ => do
    Builder.addStates 1
    return false
  | literal text => do
    Builder.addStates (literalBytes text).length
    return false
  | set s => do
    s.build direction
    return false
  | repetition least most _ body =>
    buildRepetition least most (body.leastLength.any (0 < ·)) (body.build direction)
  | group _ body =>
    match direction with
    | .forward => do
      Builder.addStates 1
      Builder.close (← body.build direction)
      Builder.addStates 1
      return false
    | .backward => body.build direction
  | sequence items => buildSequence direction items
  | choice branches => do
    match literals? branches with
    | some texts =>
      let texts := if direction = .forward then texts else texts.map List.reverse
      Builder.addStates 1
      addTextTree ((texts.map List.length).foldl max 0) texts
    | none => buildBranches direction 0 branches
    return false

/-- Builds the items in the order in which they are read. -/
def buildSequence (direction : Direction) : List Pattern → Builder Bool
  | [] => return false
  | [p] => p.build direction
  | p :: rest =>
    match direction with
    | .forward => do
      Builder.close (← p.build direction)
      buildSequence direction rest
    | .backward => do
      Builder.close (← buildSequence direction rest)
      p.build direction

/-- Builds the branches, with the fork before them and the state behind them after the second. -/
def buildBranches (direction : Direction) (before : Nat) : List Pattern → Builder Unit
  | [] => return
  | p :: rest => do
    let ends ← p.build direction
    if before = 1 then Builder.addStates 2
    Builder.addLinks 1
    Builder.close ends
    buildBranches direction (before + 1) rest

end

mutual

/-- Whether every match starts at a place where `place` holds. -/
def startsWith (place : Anchor) : Pattern → Bool
  | empty | literal _ | set _ => false
  | anchor other => other == place
  | repetition least _ _ body => least != 0 && body.startsWith place
  | group _ body => body.startsWith place
  | sequence items => sequenceStartsWith place items
  | choice branches => allStartWith place branches

def sequenceStartsWith (place : Anchor) : List Pattern → Bool
  | [] => false
  | p :: rest => p.startsWith place || (p.isWidthless && sequenceStartsWith place rest)

def allStartWith (place : Anchor) : List Pattern → Bool
  | [] => true
  | p :: rest => p.startsWith place && allStartWith place rest

end

mutual

/-- Whether every match ends at a place where `place` holds. -/
def endsWith (place : Anchor) : Pattern → Bool
  | empty | literal _ | set _ => false
  | anchor other => other == place
  | repetition least _ _ body => least != 0 && body.endsWith place
  | group _ body => body.endsWith place
  | sequence items => sequenceEndsWith place items
  | choice branches => allEndWith place branches

def sequenceEndsWith (place : Anchor) : List Pattern → Bool
  | [] => false
  | p :: rest => sequenceEndsWith place rest || (allWidthless rest && p.endsWith place)

def allEndWith (place : Anchor) : List Pattern → Bool
  | [] => true
  | p :: rest => p.endsWith place && allEndWith place rest

end

/-- Builds the whole automaton: what passes over the text before a match, unless a match can start
in one place only, the pattern, the bounds of a forward match, and the end. -/
def buildAll (direction : Direction) (p : Pattern) : Builder Unit := do
  let isTied := match direction with
    | .forward => p.startsWith .textStart
    | .backward => p.endsWith .textEnd
  if isTied then Builder.addStates 1
  else
    Builder.addStates 3
    Builder.addEdges 1
    Builder.addLinks 2
  Builder.addStates (if direction = .forward then 2 else 0)
  Builder.close (← p.build direction)
  Builder.addStates 1

def fits (p : Pattern) : Bool :=
  ((p.buildAll .forward).run ⟨0, 0⟩).isSome && ((p.buildAll .backward).run ⟨0, 0⟩).isSome

end Pattern

end DotQuery.Regex

import DotQuery.Regex.Anchor

/-!
Patterns. The order of alternatives, and whether a repetition is greedy, say which of several
matches at one place is preferred. The functions that build patterns keep them in a simple form:
sequences and choices are flat and hold at least two parts, neighbouring texts are one text, a
choice of single characters is a set, and what repeats without a character repeats at most once.
-/

namespace DotQuery.Regex

inductive Pattern where
  | empty
  /-- One or more characters that match themselves. -/
  | literal (text : List Char)
  | set (set : CharSet)
  | anchor (anchor : Anchor)
  | repetition (least : Nat) (most : Option Nat) (greedy : Bool) (body : Pattern)
  /-- A group with a number, in the order of the opening brackets. -/
  | group (number : Nat) (body : Pattern)
  | sequence (items : List Pattern)
  | choice (branches : List Pattern)

namespace Pattern

/-! ### Equality -/

mutual

def same : Pattern → Pattern → Bool
  | empty, empty => true
  | literal s, literal t => s == t
  | set a, set b => a == b
  | anchor a, anchor b => a == b
  | repetition l m g p, repetition l' m' g' p' => l == l' && m == m' && g == g' && p.same p'
  | group n p, group n' p' => n == n' && p.same p'
  | sequence ps, sequence qs => allSame ps qs
  | choice ps, choice qs => allSame ps qs
  | _, _ => false

def allSame : List Pattern → List Pattern → Bool
  | [], [] => true
  | p :: ps, q :: qs => p.same q && allSame ps qs
  | _, _ => false

end

/-! ### Lengths of matches -/

def lengthsWith (pick : Nat → Nat → Nat) (a b : Option Nat) : Option Nat := do
  return pick (← a) (← b)

mutual

/-- The number of characters in a shortest match, or nothing where the pattern has a part that
never matches. -/
def leastLength : Pattern → Option Nat
  | empty | anchor _ => some 0
  | literal text => some text.length
  | set s => if s.ranges.isEmpty then none else some 1
  | repetition least _ _ body => body.leastLength.map (least * ·)
  | group _ body => body.leastLength
  | sequence items => sumOfLeast items
  | choice branches => leastOfLeast branches

def sumOfLeast : List Pattern → Option Nat
  | [] => some 0
  | p :: rest => lengthsWith (· + ·) p.leastLength (sumOfLeast rest)

def leastOfLeast : List Pattern → Option Nat
  | [] => none
  | [p] => p.leastLength
  | p :: rest => lengthsWith min p.leastLength (leastOfLeast rest)

end

mutual

/-- Whether no match holds a character. -/
def isWidthless : Pattern → Bool
  | empty | anchor _ => true
  | literal text => text.isEmpty
  | set _ => false
  | repetition _ most _ body => most.isSome && body.isWidthless
  | group _ body => body.isWidthless
  | sequence items => allWidthless items
  | choice branches => allWidthless branches

def allWidthless : List Pattern → Bool
  | [] => true
  | p :: rest => p.isWidthless && allWidthless rest

end

/-! ### Building patterns -/

def ofSet (s : CharSet) : Pattern :=
  match s.theOnly? with
  | some c => literal [c]
  | none => set s

/-- The parts of a sequence; another pattern is its own only part. -/
def items : Pattern → List Pattern
  | empty => []
  | sequence parts => parts
  | p => [p]

def branches : Pattern → List Pattern
  | choice parts => parts
  | p => [p]

/-- Puts a part before the parts of a sequence. -/
def join (part : Pattern) (parts : List Pattern) : List Pattern :=
  match part, parts with
  | literal s, literal t :: rest => literal (s ++ t) :: rest
  | _, _ => part :: parts

def ofSequence (parts : List Pattern) : Pattern :=
  match (parts.flatMap items).foldr join [] with
  | [] => empty
  | [p] => p
  | joined => sequence joined

/-- The characters that patterns stand for, if each is one character. -/
def characters? (patterns : List Pattern) : Option (List Char) :=
  patterns.mapM fun
    | literal [c] => some c
    | _ => none

def sets? (patterns : List Pattern) : Option (List CharSet) :=
  patterns.mapM fun
    | set s => some s
    | _ => none

/-- The set that a choice of nothing but characters, or of nothing but sets, comes to. -/
def setOfChoice? (patterns : List Pattern) : Option CharSet :=
  match characters? patterns with
  | some cs => some (.ofRanges (cs.map fun c => (c.toNat, c.toNat)))
  | none => (sets? patterns).map fun sets => .ofRanges (sets.flatMap CharSet.ranges)

/-- How many parts two sequences start with in common. -/
def commonStart : List Pattern → List Pattern → Nat
  | p :: ps, q :: qs => if p.same q then commonStart ps qs + 1 else 0
  | _, _ => 0

/-- The parts that all of several sequences start with; none unless all are sequences. -/
def commonParts : List Pattern → List Pattern
  | sequence parts :: rest =>
    rest.foldl (fun common p =>
      match p with
      | sequence others => common.take (commonStart common others)
      | _ => []) parts
  | _ => []

/-- A choice of patterns. What all of them start with is put before the choice of what is left;
`fuel` bounds how often that happens. -/
def ofChoiceWithin : Nat → List Pattern → Pattern
  | 0, parts => choice parts
  | fuel + 1, parts =>
    match parts.flatMap branches with
    | [] => set .empty
    | [p] => p
    | flat =>
      match setOfChoice? flat, commonParts flat with
      | some s, _ => ofSet s
      | none, [] => choice flat
      | none, common =>
        let rests := flat.map fun p => ofSequence (p.items.drop common.length)
        ofSequence (common ++ [ofChoiceWithin fuel rests])

mutual

/-- The number of parts at all levels. -/
def weight : Pattern → Nat
  | empty | literal _ | set _ | anchor _ => 1
  | repetition _ _ _ body => body.weight + 1
  | group _ body => body.weight + 1
  | sequence items => totalWeight items + 1
  | choice branches => totalWeight branches + 1

def totalWeight : List Pattern → Nat
  | [] => 0
  | p :: rest => p.weight + totalWeight rest

end

/-- Each common start that is split off makes the pattern lighter, so the weight is fuel enough. -/
def ofChoice (parts : List Pattern) : Pattern :=
  ofChoiceWithin (totalWeight parts + 1) parts

def ofRepetition (least : Nat) (most : Option Nat) (greedy : Bool) (body : Pattern) : Pattern :=
  let once := body.isWidthless
  let least := if once then min least 1 else least
  let most := if once then some (most.elim 1 (min · 1)) else most
  if most = some 0 then empty
  else if least = 1 ∧ most = some 1 then body
  else repetition least most greedy body

end Pattern

end DotQuery.Regex

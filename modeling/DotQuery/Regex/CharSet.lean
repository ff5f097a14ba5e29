import DotQuery.Text.CaseFolding
import DotQuery.Text.WordCharacter

/-!
Sets of characters as closed ranges of scalar values, in increasing order and with a gap between
each two, so that a set has one form only.
-/

namespace DotQuery.Regex

structure CharSet where
  ranges : List (Nat × Nat)
deriving DecidableEq

namespace CharSet

def maxScalar : Nat := 0x10FFFF

/-- The scalar value after `code`; there is none among the surrogates. -/
def scalarAfter (code : Nat) : Nat :=
  if code = 0xD7FF then 0xE000 else code + 1

def scalarBefore (code : Nat) : Nat :=
  if code = 0xE000 then 0xD7FF else code - 1

/-- Joins ranges, given in the order of their first members, where they touch or overlap. -/
def joinRanges (current : Nat × Nat) : List (Nat × Nat) → List (Nat × Nat)
  | [] => [current]
  | range :: rest =>
    if range.1 ≤ current.2 + 1 then joinRanges (current.1, max current.2 range.2) rest
    else current :: joinRanges range rest

def ofRanges (ranges : List (Nat × Nat)) : CharSet :=
  match ranges.mergeSort (fun a b => a.1 ≤ b.1) with
  | [] => ⟨[]⟩
  | range :: rest => ⟨joinRanges range rest⟩

def empty : CharSet :=
  ⟨[]⟩

def single (c : Char) : CharSet :=
  ⟨[(c.toNat, c.toNat)]⟩

def ofCharRanges (ranges : List (Char × Char)) : CharSet :=
  ofRanges (ranges.map fun bounds => (bounds.1.toNat, bounds.2.toNat))

/-! ### Members -/

def containsCode : List (Nat × Nat) → Nat → Bool
  | [], _ => false
  | (first, last) :: rest, code =>
    if code < first then false else code ≤ last || containsCode rest code

def contains (set : CharSet) (c : Char) : Bool :=
  containsCode set.ranges c.toNat

/-- The only member of a set that has just one. -/
def theOnly? (set : CharSet) : Option Char :=
  match set.ranges with
  | [(first, last)] => if first = last then some (Char.ofNat first) else none
  | _ => none

def isAscii (set : CharSet) : Bool :=
  set.ranges.all fun range => range.2 < 128

/-! ### Operations -/

/-- What lies between the ranges, from `start` on. -/
def gapsFrom (start : Nat) : List (Nat × Nat) → List (Nat × Nat)
  | [] => if start ≤ maxScalar then [(start, maxScalar)] else []
  | (first, last) :: rest =>
    if start < first then (start, scalarBefore first) :: gapsFrom (scalarAfter last) rest
    else gapsFrom (scalarAfter last) rest

def complement (set : CharSet) : CharSet :=
  ⟨gapsFrom 0 set.ranges⟩

def union (a b : CharSet) : CharSet :=
  ofRanges (a.ranges ++ b.ranges)

def intersection (a b : CharSet) : CharSet :=
  (a.complement.union b.complement).complement

def difference (a b : CharSet) : CharSet :=
  a.intersection b.complement

def symmetricDifference (a b : CharSet) : CharSet :=
  (a.union b).difference (a.intersection b)

/-- The set with the case variants of its members, where `pairs` says which characters fold to
which letters: first the letters join, then whatever folds to a letter in the set. -/
def foldWith (pairs : List (Nat × Nat)) (set : CharSet) : CharSet :=
  let letters := pairs.filterMap fun (code, letter) =>
    if containsCode set.ranges code then some (letter, letter) else none
  let withLetters := ofRanges (set.ranges ++ letters)
  let sources := pairs.filterMap fun (code, letter) =>
    if containsCode withLetters.ranges letter then some (code, code) else none
  ofRanges (withLetters.ranges ++ sources)

def fold (set : CharSet) : CharSet :=
  foldWith Text.foldingPairs set

def foldAscii (set : CharSet) : CharSet :=
  foldWith Text.asciiFoldingPairs set

/-! ### Sets with names -/

def digit : CharSet :=
  ofRanges Text.decimalDigitRanges.toList

def space : CharSet :=
  ofRanges [(9, 13), (0x20, 0x20), (0x85, 0x85), (0xA0, 0xA0), (0x1680, 0x1680), (0x2000, 0x200A),
    (0x2028, 0x2029), (0x202F, 0x202F), (0x205F, 0x205F), (0x3000, 0x3000)]

def word : CharSet :=
  ofRanges Text.wordRanges.toList

def asciiDigit : CharSet :=
  ofCharRanges [('0', '9')]

def asciiSpace : CharSet :=
  ofCharRanges [('\t', '\r'), (' ', ' ')]

def asciiWord : CharSet :=
  ofCharRanges [('0', '9'), ('A', 'Z'), ('_', '_'), ('a', 'z')]

/-- The sets of ASCII characters that have names of their own. -/
def named? : String → Option CharSet
  | "alnum" => ofCharRanges [('0', '9'), ('A', 'Z'), ('a', 'z')]
  | "alpha" => ofCharRanges [('A', 'Z'), ('a', 'z')]
  | "ascii" => ofCharRanges [('\x00', '\x7f')]
  | "blank" => ofCharRanges [('\t', '\t'), (' ', ' ')]
  | "cntrl" => ofCharRanges [('\x00', '\x1f'), ('\x7f', '\x7f')]
  | "digit" => asciiDigit
  | "graph" => ofCharRanges [('!', '~')]
  | "lower" => ofCharRanges [('a', 'z')]
  | "print" => ofCharRanges [(' ', '~')]
  | "punct" => ofCharRanges [('!', '/'), (':', '@'), ('[', '`'), ('\x7b', '~')]
  | "space" => asciiSpace
  | "upper" => ofCharRanges [('A', 'Z')]
  | "word" => asciiWord
  | "xdigit" => ofCharRanges [('0', '9'), ('A', 'F'), ('a', 'f')]
  | _ => none

end CharSet

end DotQuery.Regex

import DotQuery.Decimal.Numeral

/-!
The double-precision number that a JSON number is read as. Its digits are collected in a word of 64
bits as far as they fit, and the others only count as places. The word is then multiplied or divided
by a power of ten in double precision. Each step is rounded, so the result can be a neighbour of the
number that is nearest to what is written: 1.4649999999999999 is read as 1.465.
-/

namespace DotQuery

namespace Binary64

/-- The magnitude of a power of ten. -/
def powerOfTen (exponent : Nat) : Nat :=
  nearest (Nat.pow 10 exponent * one) 1

/-- The magnitude divided by `10 ^ 308`, again and again while something is left of it. -/
def scaleDown (units : Nat) : Nat → Nat
  | 0 => units
  | times + 1 =>
    if units = 0 then 0 else scaleDown (nearest (units * one) (powerOfTen 308)) times

/-- A word with the point moved; none if the result is not finite. -/
def scale? (negative : Bool) (word : Nat) (exponent : Int) : Option Finite64 :=
  let units := nearest (word * one) 1
  if 0 ≤ exponent then
    if word = 0 then some (.zero negative)
    else if 308 < exponent then none
    else (ofRatio negative (units * powerOfTen exponent.toNat) one).finite?
  else
    let places := (-exponent).toNat
    let times := (places - 1) / 308
    (ofRatio negative (scaleDown units times * one) (powerOfTen (places - 308 * times))).finite?

end Binary64

namespace Numeral

/-- The digits behind those that are already in the word, and how many of them fit into it. -/
def collect (word : Nat) : List Char → Nat × Nat
  | [] => (word, 0)
  | c :: rest =>
    let next := 10 * word + (c.toNat - '0'.toNat)
    if next < 0x10000000000000000 then
      let (last, taken) := collect next rest
      (last, taken + 1)
    else (word, 0)

/-- The finite number that the literal is read as in JSON texts. -/
def readFloat? (n : Numeral) : Option Finite64 :=
  let (whole, taken) := collect 0 n.whole
  let (word, places) := collect whole n.fraction
  let dropped := n.whole.length - taken
  let exponent : Int := Text.digitsValue n.exponent
  Binary64.scale? n.negative word
    ((if n.exponentNegative then -exponent else exponent) + dropped - places)

end Numeral

end DotQuery

import DotQuery.Binary64.Basic

/-!
Decimal numbers, `± digits * 10 ^ exponent`, and the double-precision number nearest to one. The
quotient is exact; only exponents at which every digit string of that length is infinite or zero
are answered without it.
-/

namespace DotQuery

structure Decimal where
  negative : Bool
  digits : Nat
  exponent : Int
deriving DecidableEq

namespace Decimal

/-- The first exponent from `k` on whose power of ten is beyond `n`. -/
def powerBeyond (n : Nat) : Nat → Nat → Nat
  | 0, k => k
  | fuel + 1, k => if n < Nat.pow 10 k then k else powerBeyond n fuel (k + 1)

/-- The number of digits of `n`, none for zero. The search starts a little below
`Nat.log2 n * log 2 / log 10`. -/
def digitCount (n : Nat) : Nat :=
  powerBeyond n (n.log2 + 1) (n.log2 * 30102 / 100000)

/-- The same number with the point moved `places` to the right. -/
def shift (d : Decimal) (places : Int) : Decimal :=
  { d with exponent := d.exponent + places }

/-- The exponent of the power of ten at the first digit. -/
def leadingExponent (d : Decimal) : Int :=
  d.exponent + digitCount d.digits - 1

def toBinary64 (d : Decimal) : Binary64 :=
  if d.digits = 0 then .finite (.zero d.negative)
  else if d.leadingExponent ≥ 309 then .infinite d.negative
  else if d.leadingExponent < -324 then .finite (.zero d.negative)
  else if d.exponent < 0 then
    .ofRatio d.negative (d.digits * Binary64.one) (Nat.pow 10 (-d.exponent).toNat)
  else
    .ofRatio d.negative (d.digits * Nat.pow 10 d.exponent.toNat * Binary64.one) 1

end Decimal

end DotQuery

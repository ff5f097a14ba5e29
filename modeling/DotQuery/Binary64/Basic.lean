import DotQuery.Binary64.Magnitude

/-!
Double-precision numbers. A finite one is a sign and an exact magnitude, so every operation is
exact arithmetic on whole numbers followed by one rounding to nearest, ties to even; what rounds to
`2 ^ 1024` or more is infinite.
-/

namespace DotQuery

structure Finite64 where
  negative : Bool
  units : Nat
  representable : Binary64.Representable units
deriving DecidableEq

inductive Binary64 where
  | nan
  | infinite (negative : Bool)
  | finite (value : Finite64)
deriving DecidableEq

namespace Finite64

/-- The signed count of units. -/
def scaled (x : Finite64) : Int :=
  if x.negative then -(x.units : Int) else x.units

def zero (negative : Bool) : Finite64 :=
  ⟨negative, 0, Nat.dvd_zero _, Binary64.limit_pos⟩

def negate (x : Finite64) : Finite64 :=
  { x with negative := !x.negative }

def isIntegral (x : Finite64) : Bool :=
  x.units % Binary64.one == 0

/-- The integer next to `x` in the direction of zero. -/
def truncate (x : Finite64) : Int :=
  let magnitude : Int := x.units / Binary64.one
  if x.negative then -magnitude else magnitude

end Finite64

namespace Binary64

/-- The number nearest to `num / den` units. -/
def ofRatio (negative : Bool) (num den : Nat) : Binary64 :=
  if h : nearest num den < limit then
    .finite ⟨negative, nearest num den, spacing_dvd_nearest num den, h⟩
  else
    .infinite negative

/-- The number nearest to `scaled` units; the sign of an exact zero is given. -/
def ofScaled (zeroNegative : Bool) (scaled : Int) : Binary64 :=
  if scaled = 0 then .finite (.zero zeroNegative)
  else ofRatio (scaled < 0) scaled.natAbs 1

def ofInt (n : Int) : Binary64 :=
  ofScaled false (n * one)

def negativeZero : Binary64 := .finite (.zero true)

def positiveZero : Binary64 := .finite (.zero false)

def half : Binary64 := ofRatio false one 2

def isNaN : Binary64 → Bool
  | .nan => true
  | _ => false

def finite? : Binary64 → Option Finite64
  | .finite x => some x
  | _ => none

def negate : Binary64 → Binary64
  | .nan => .nan
  | .infinite negative => .infinite !negative
  | .finite x => .finite x.negate

/-- A sum that cancels exactly is negative zero only when both terms are negative. -/
def add : Binary64 → Binary64 → Binary64
  | .nan, _ | _, .nan => .nan
  | .infinite a, .infinite b => if a = b then .infinite a else .nan
  | .infinite a, .finite _ => .infinite a
  | .finite _, .infinite b => .infinite b
  | .finite x, .finite y => ofScaled (x.negative && y.negative) (x.scaled + y.scaled)

def subtract (a b : Binary64) : Binary64 :=
  add a b.negate

/-- The quotient by a positive count. -/
def divideBy (count : Nat) : Binary64 → Binary64
  | .nan => .nan
  | .infinite negative => .infinite negative
  | .finite x => ofRatio x.negative x.units count

/-- The greatest integer that is not greater. -/
def floor : Binary64 → Binary64
  | .finite x => ofScaled x.negative (x.scaled / one * one)
  | a => a

/-- NaN stands in no order, and the two zeros are equal. -/
def compare? : Binary64 → Binary64 → Option Ordering
  | .nan, _ | _, .nan => none
  | .infinite a, .infinite b => some (if a = b then .eq else if a then .lt else .gt)
  | .infinite a, .finite _ => some (if a then .lt else .gt)
  | .finite _, .infinite b => some (if b then .gt else .lt)
  | .finite x, .finite y => some (compare x.scaled y.scaled)

def isZero (a : Binary64) : Bool :=
  compare? a positiveZero == some .eq

/-- The lesser number; NaN gives way to a number, and of two equal numbers the first is taken. -/
def least (a b : Binary64) : Binary64 :=
  if a.isNaN then b
  else if compare? b a == some .lt then b
  else a

/-- The greater number; NaN gives way to a number, and of two equal numbers the first is taken. -/
def greatest (a b : Binary64) : Binary64 :=
  if a.isNaN then b
  else if compare? b a == some .gt then b
  else a

end Binary64

end DotQuery

import DotQuery.Decimal.Basic

/-!
The decimal of a double-precision number: the one with the fewest digits that reads back as that
number, and of those the nearest. Candidates with `n` digits are the two neighbours of the exact
value on that grid; the exact expansion, which always reads back, ends the search.

Rounding to two decimal places works on that text: the point moves two places to the right, the
result is rounded half up, and the point moves back. So 1.005 becomes 1.01 although the double
nearest to 1.005 lies below it.
-/

namespace DotQuery

namespace Decimal

/-- Which of two candidates at the same distance is taken. -/
inductive Tie where
  | even
  | away
deriving DecidableEq

/-- The digits of a magnitude written out exactly with 1074 decimal places. -/
def exactDigits (units : Nat) : Nat :=
  units * Nat.pow 5 Binary64.oneExponent

/-- The decimal that drops the last `dropped` of the exact digits, rounded to `digits`. -/
def candidate (negative : Bool) (digits dropped : Nat) : Decimal :=
  ⟨negative, digits, (dropped : Int) - Binary64.oneExponent⟩

/-- The preferred decimal among the neighbours of `x` that drop `dropped` digits and read back as
`x`. -/
def neighbour? (tie : Tie) (x : Finite64) (exact dropped : Nat) : Option Decimal :=
  let grid := Nat.pow 10 dropped
  let lower := exact / grid
  let remainder := exact % grid
  let readsBack (d : Decimal) : Bool := d.toBinary64 == .finite x
  let below := candidate x.negative lower dropped
  let above := candidate x.negative (lower + 1) dropped
  let upward := 2 * remainder > grid ||
    (2 * remainder == grid && (tie == .away || lower % 2 == 1))
  if upward then
    if readsBack above then some above else if readsBack below then some below else none
  else
    if readsBack below then some below else if readsBack above then some above else none

/-- The first grid, from one digit to seventeen, on which a neighbour of `x` reads back as `x`. -/
def search (tie : Tie) (x : Finite64) (exact : Nat) : Option Decimal :=
  let count := digitCount exact
  (List.range 17).findSome? fun n => neighbour? tie x exact (count - (n + 1))

/-- The same number without trailing zeros among its digits. -/
def strip : Nat → Decimal → Decimal
  | 0, d => d
  | fuel + 1, d =>
    if d.digits ≠ 0 ∧ d.digits % 10 = 0 then
      strip fuel ⟨d.negative, d.digits / 10, d.exponent + 1⟩
    else d

end Decimal

/-- The shortest decimal that reads back as `x`. -/
def Finite64.shortest (tie : Decimal.Tie) (x : Finite64) : Decimal :=
  if x.units = 0 then ⟨x.negative, 0, 0⟩
  else
    let exact := Decimal.exactDigits x.units
    match Decimal.search tie x exact with
    | some d => d.strip (Decimal.digitCount d.digits)
    | none => Decimal.candidate x.negative exact 0

namespace Binary64

/-- The number with the point of its shortest decimal moved. -/
def shiftDecimal (places : Int) : Binary64 → Binary64
  | .finite x => ((x.shortest .away).shift places).toBinary64
  | a => a

def roundToHundredths (a : Binary64) : Binary64 :=
  (((a.shiftDecimal 2).add half).floor).shiftDecimal (-2)

end Binary64

end DotQuery

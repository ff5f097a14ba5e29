/-!
Natural numbers as they are typed: ASCII digits, with a plus sign before them if need be, or digits
of a radix up to sixteen, by which characters are written too.
-/

namespace DotQuery.Text

def digitsValue (digits : List Char) : Nat :=
  digits.foldl (fun value c => 10 * value + (c.toNat - '0'.toNat)) 0

def withoutPlus (text : List Char) : List Char :=
  match text with
  | '+' :: rest => rest
  | text => text

def natural? (text : List Char) : Option Nat :=
  let digits := withoutPlus text
  if digits.isEmpty || !digits.all Char.isDigit then none else some (digitsValue digits)

/-- The value of a digit; those beyond nine are letters in either case. -/
def digitValue? (c : Char) : Option Nat :=
  if c.isDigit then some (c.toNat - '0'.toNat)
  else if 'a' ≤ c ∧ c ≤ 'f' then some (c.toNat - 'a'.toNat + 10)
  else if 'A' ≤ c ∧ c ≤ 'F' then some (c.toNat - 'A'.toNat + 10)
  else none

/-- The number that one or more digits of a radix are written for. -/
def numeral? (radix : Nat) (digits : List Char) : Option Nat := do
  if digits.isEmpty then none
  let values ← digits.mapM digitValue?
  if values.all (· < radix) then
    some (values.foldl (fun value digit => value * radix + digit) 0)
  else none

/-- The character of a code; surrogates have none. -/
def character? (code : Nat) : Option Char :=
  if h : code.isValidChar then some (Char.ofNatAux code h) else none

end DotQuery.Text

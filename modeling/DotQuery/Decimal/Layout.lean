import DotQuery.Decimal.Shortest

/-!
How a decimal is written: positionally while the exponent of its first digit lies in a window, and
otherwise with one digit before the point and a power of ten.
-/

namespace DotQuery

namespace Decimal

structure Layout where
  /-- Which of two shortest decimals is written that are as near to the number. -/
  tie : Tie
  /-- The least and greatest exponent of a first digit that is written positionally. -/
  lowest : Option Int
  highest : Option Int
  /-- What follows a whole number that is written positionally. -/
  wholeMark : List Char
  /-- Whether a positive power of ten is written with its sign. -/
  plusSign : Bool

def zeros (count : Int) : List Char :=
  List.replicate count.toNat '0'

def digitChars (n : Nat) : List Char :=
  Nat.toDigits 10 n

def signChars (negative : Bool) : List Char :=
  if negative then ['-'] else []

namespace Layout

def isPositional (layout : Layout) (exponent : Int) : Bool :=
  layout.lowest.all (· ≤ exponent) && layout.highest.all (exponent ≤ ·)

def positional (layout : Layout) (digits : List Char) (leading : Int) : List Char :=
  if leading < 0 then
    '0' :: '.' :: (zeros (-leading - 1) ++ digits)
  else
    let wholeLength := leading.toNat + 1
    let fraction := digits.drop wholeLength
    digits.take wholeLength ++ zeros (wholeLength - digits.length : Int) ++
      (if fraction.isEmpty then layout.wholeMark else '.' :: fraction)

def scientific (layout : Layout) (digits : List Char) (leading : Int) : List Char :=
  let fraction := digits.drop 1
  let sign := if leading < 0 then ['-'] else if layout.plusSign then ['+'] else []
  digits.take 1 ++ (if fraction.isEmpty then [] else '.' :: fraction) ++
    'e' :: (sign ++ digitChars leading.natAbs)

def write (layout : Layout) (d : Decimal) : List Char :=
  let leading := if d.digits = 0 then 0 else d.leadingExponent
  let digits := digitChars d.digits
  signChars d.negative ++
    if layout.isPositional leading then layout.positional digits leading
    else layout.scientific digits leading

end Layout

end Decimal

/-- The shortest decimal text of a number, or the name of a value that is none. -/
def Binary64.write (layout : Decimal.Layout) : Binary64 → List Char
  | .nan => "NaN".toList
  | .infinite negative => Decimal.signChars negative ++ "inf".toList
  | .finite x => layout.write (x.shortest layout.tie)

end DotQuery

import DotQuery.Regex.CharSet

/-!
The bytes of characters in UTF-8. A range of characters is a list of sequences of byte ranges, in
increasing order: it is split wherever the number of bytes changes, and wherever a byte changes
while the bytes behind it do not run through all their values.
-/

namespace DotQuery.Regex

structure ByteRange where
  first : Nat
  last : Nat
deriving DecidableEq

/-- The bytes of a scalar value in UTF-8. -/
def utf8Bytes (code : Nat) : List Nat :=
  if code < 0x80 then [code]
  else if code < 0x800 then [0xC0 + code / 0x40, 0x80 + code % 0x40]
  else if code < 0x10000 then
    [0xE0 + code / 0x1000, 0x80 + code / 0x40 % 0x40, 0x80 + code % 0x40]
  else
    [0xF0 + code / 0x40000, 0x80 + code / 0x1000 % 0x40, 0x80 + code / 0x40 % 0x40,
      0x80 + code % 0x40]

/-- The last scalar value of one, two and three bytes. -/
def lengthBounds : List Nat :=
  [0x7F, 0x7FF, 0xFFFF]

/-- The end of the first part of a range that has to be split for the lowest `bits` of its bounds:
where the bits above differ, those below have to run from all zeros to all ones. -/
def splitForBits (first last bits : Nat) : Option Nat :=
  let block := Nat.pow 2 bits
  if first / block = last / block then none
  else if first % block ≠ 0 then some (first / block * block + (block - 1))
  else if last % block ≠ block - 1 then some (last / block * block - 1)
  else none

/-- The end of the first part of a range that is no single sequence of byte ranges. -/
def splitPoint? (first last : Nat) : Option Nat :=
  match lengthBounds.find? fun bound => first ≤ bound && bound < last with
  | some bound => some bound
  | none => if last < 0x80 then none else [6, 12, 18].findSome? (splitForBits first last)

/-- The sequences of a range without surrogates. -/
def sequencesBetween (first last : Nat) : List (List ByteRange) :=
  match splitPoint? first last with
  | none => [List.zipWith ByteRange.mk (utf8Bytes first) (utf8Bytes last)]
  | some middle =>
    if _h : first ≤ middle ∧ middle < last then
      sequencesBetween first middle ++ sequencesBetween (middle + 1) last
    else []
termination_by last - first

/-- The sequences of a range of scalar values. -/
def byteSequences (range : Nat × Nat) : List (List ByteRange) :=
  let (first, last) := range
  if first < 0xE000 && 0xD7FF < last then
    (if first ≤ 0xD7FF then sequencesBetween first 0xD7FF else []) ++ sequencesBetween 0xE000 last
  else sequencesBetween first last

end DotQuery.Regex

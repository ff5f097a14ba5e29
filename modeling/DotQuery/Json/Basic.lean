import DotQuery.Binary64.Basic

/-!
JSON values. A number is either an integer of the range that signed and unsigned 64-bit words cover
together, or a finite double-precision number; the two kinds stay apart. Objects keep the order of
their members.
-/

namespace DotQuery

namespace Json

/-- The integers that a JSON number holds exactly. -/
def IsWord (n : Int) : Prop :=
  -0x8000000000000000 ≤ n ∧ n < 0x10000000000000000

instance (n : Int) : Decidable (IsWord n) :=
  inferInstanceAs (Decidable (_ ∧ _))

end Json

inductive Number where
  | int (value : Int) (isWord : Json.IsWord value)
  | float (value : Finite64)
deriving DecidableEq

inductive Json where
  | null
  | bool (value : Bool)
  | num (value : Number)
  | str (value : String)
  | arr (items : List Json)
  | obj (members : List (String × Json))
deriving Inhabited

namespace Number

/-- The integer, or the end of the range that is nearest to it. -/
def ofInt (n : Int) : Number :=
  .int (max (-0x8000000000000000) (min n 0xFFFFFFFFFFFFFFFF)) (by unfold Json.IsWord; omega)

/-- The double-precision reading of a number. -/
def toBinary64 : Number → Binary64
  | .int n _ => .ofInt n
  | .float x => .finite x

end Number

namespace Json

def ofInt (n : Int) : Json :=
  .num (.ofInt n)

/-- The greatest magnitude up to which every integer is a double-precision number. -/
def maxSafeInteger : Nat := 0x1FFFFFFFFFFFFF

/-- A computed number as a value: an integer if it is one of safe magnitude, and null if it is not
finite. -/
def ofBinary64 : Binary64 → Json
  | .finite x =>
    if x.isIntegral && x.units ≤ maxSafeInteger * Binary64.one then ofInt x.truncate
    else .num (.float x)
  | _ => .null

def isArray : Json → Bool
  | .arr _ => true
  | _ => false

def isNull : Json → Bool
  | .null => true
  | _ => false

def items? : Json → Option (List Json)
  | .arr items => some items
  | _ => none

def number? : Json → Option Binary64
  | .num n => some n.toBinary64
  | _ => none

/-- The member of an object; no other value has members. -/
def member? (key : String) : Json → Option Json
  | .obj members => members.lookup key
  | _ => none

/-- Absent, null or the empty string. -/
def isBlank : Option Json → Bool
  | none => true
  | some .null => true
  | some (.str text) => text.isEmpty
  | some _ => false

/-- Blank, or a number equal to zero. -/
def isBlankOrZero (value : Option Json) : Bool :=
  isBlank value || (value.bind number?).any Binary64.isZero

/-- Puts a member at the end of the list, or in the place of the one with its key. -/
def insertMember (key : String) (value : Json) : List (String × Json) → List (String × Json)
  | [] => [(key, value)]
  | (k, v) :: rest =>
    if k = key then (k, value) :: rest else (k, v) :: insertMember key value rest

theorem insertMember_of_not_mem {key : String} {members : List (String × Json)}
    (hfresh : key ∉ members.map Prod.fst) (value : Json) :
    insertMember key value members = members ++ [(key, value)] := by
  induction members with
  | nil => rfl
  | cons member rest ih =>
      rw [List.map_cons, List.mem_cons, not_or] at hfresh
      rw [insertMember, if_neg (Ne.symm hfresh.1), ih hfresh.2, List.cons_append]

end Json

end DotQuery

import DotQuery.Decimal.Numeral
import DotQuery.Settings.Basic
import DotQuery.Text.Natural
import DotQuery.Yaml.Reader

/-!
The settings of a YAML text. A mapping must not repeat a key: two keys are the same if what they
stand for is the same, so the number one and the text of its digit are different keys. As the keys
of a table both have the same text, and the later one holds.
-/

namespace DotQuery

/-- What an unquoted scalar stands for. A real number is kept as it is written. -/
inductive Plain where
  | missing
  | boolean (value : Bool)
  | integer (value : Int)
  | real (written : String)
  | text (value : String)
deriving DecidableEq

namespace Plain

/-- A number with an optional sign. -/
def signedNumeral? (radix : Nat) (text : List Char) : Option Int :=
  match text with
  | '-' :: digits => (Text.numeral? radix digits).map fun n => -(n : Int)
  | '+' :: digits => (Text.numeral? radix digits).map Int.ofNat
  | digits => (Text.numeral? radix digits).map Int.ofNat

/-- An integer; the digits of another radix stand behind a mark, and may have a sign there. -/
def integer? (text : List Char) : Option Int :=
  let number := match text with
    | '0' :: 'x' :: digits => signedNumeral? 16 digits
    | '0' :: 'o' :: digits => signedNumeral? 8 digits
    | '+' :: digits => signedNumeral? 10 digits
    | digits => signedNumeral? 10 digits
  number.filter Setting.isSigned64

/-- The text names an infinity or NaN. -/
def isNonFinite (text : String) : Bool :=
  text ∈ [".inf", ".Inf", ".INF", "+.inf", "+.Inf", "+.INF", "-.inf", "-.Inf", "-.INF",
    ".nan", ".NaN", ".NAN"]

def isReal (written : String) : Bool :=
  isNonFinite written ||
    (written.toList.any Char.isDigit && (Binary64.read? written.toList).isSome)

def ofText (text : String) : Plain :=
  match integer? text.toList with
  | some n => .integer n
  | none =>
    if text ∈ ["", "~", "null"] then .missing
    else if text ∈ ["true", "True", "TRUE"] then .boolean true
    else if text ∈ ["false", "False", "FALSE"] then .boolean false
    else if isReal text then .real text
    else .text text

/-- The setting of a scalar; an infinity that is written by name and NaN are none. -/
def toSetting? : Plain → Option Setting
  | .missing => some .missing
  | .boolean value => some (.ofBool value)
  | .integer n => some (.ofInt n)
  | .real written => (Binary64.read? written.toList).map Setting.ofFloat
  | .text value => some (.scalar true value)

/-- The key of a table. -/
def key? : Plain → Option String
  | .missing => none
  | .boolean value => some (if value then "true" else "false")
  | .integer n => (Setting.ofInt n).text?
  | .real written => some written
  | .text value => some value

end Plain

namespace Setting

def plainOf (quoted : Bool) (text : String) : Plain :=
  if quoted then .text text else .ofText text

mutual

def ofYaml? : Yaml → Option Setting
  | .scalar quoted text => (plainOf quoted text).toSetting?
  | .sequence items => (ofYamlItems? items).map .list
  | .mapping members => (ofYamlMembers? [] [] members).map .table

def ofYamlItems? : List Yaml → Option (List Setting)
  | [] => some []
  | item :: rest => do
    let item ← ofYaml? item
    let rest ← ofYamlItems? rest
    return item :: rest

/-- The members after those in `done`, whose keys stand for what is in `seen`. -/
def ofYamlMembers? (seen : List Plain) (done : List (String × Setting)) :
    List (Yaml × Yaml) → Option (List (String × Setting))
  | [] => some done
  | (.scalar quoted key, value) :: rest => do
    let plain := plainOf quoted key
    if seen.contains plain then none
    let key ← plain.key?
    let value ← ofYaml? value
    ofYamlMembers? (plain :: seen) (insertMember key value done) rest
  | _ => none

end

/-- The settings of a text, which ends at the first null character. -/
def readYaml? (text : String) : Option Setting :=
  (Yaml.read? .settings (text.toList.takeWhile (· != '\x00'))).bind ofYaml?

end Setting

end DotQuery

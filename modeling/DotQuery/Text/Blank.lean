/-!
White space as Unicode's property White_Space defines it, and the texts that are left when it is
taken off both ends.
-/

namespace DotQuery.Text

def isBlank (c : Char) : Bool :=
  let code := c.toNat
  (9 ≤ code && code ≤ 13) || code == 0x20 || code == 0x85 || code == 0xA0 || code == 0x1680 ||
    (0x2000 ≤ code && code ≤ 0x200A) || code == 0x2028 || code == 0x2029 || code == 0x202F ||
    code == 0x205F || code == 0x3000

def trimStart (text : List Char) : List Char :=
  text.dropWhile isBlank

def trimEnd (text : List Char) : List Char :=
  (trimStart text.reverse).reverse

def trim (text : List Char) : List Char :=
  trimEnd (trimStart text)

def isAllBlank (text : List Char) : Bool :=
  text.all isBlank

/-- A string without the white space at its ends. -/
def trimmed (text : String) : String :=
  String.ofList (trim text.toList)

end DotQuery.Text

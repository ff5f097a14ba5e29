import DotQuery.Regex.CharSet

/-!
Conditions on the place between two characters of a text.
-/

namespace DotQuery.Regex

inductive Anchor where
  | textStart
  | textEnd
  /-- Behind a line feed or at the start of the text. -/
  | lineStart
  | lineEnd
  /-- Behind a line ending of any kind, of which a carriage return and a line feed make one. -/
  | anyLineStart
  | anyLineEnd
  | wordBoundary (asciiOnly : Bool)
  | noWordBoundary (asciiOnly : Bool)
  | wordStart (asciiOnly : Bool)
  | wordEnd (asciiOnly : Bool)
  /-- Not behind a word character. -/
  | wordStartHalf (asciiOnly : Bool)
  | wordEndHalf (asciiOnly : Bool)
deriving DecidableEq

namespace Anchor

def isWord (asciiOnly : Bool) (c : Option Char) : Bool :=
  c.any (if asciiOnly then CharSet.asciiWord else CharSet.word).contains

def holds (before after : Option Char) : Anchor → Bool
  | textStart => before.isNone
  | textEnd => after.isNone
  | lineStart => before.all (· == '\n')
  | lineEnd => after.all (· == '\n')
  | anyLineStart => before.all (· == '\n') || (before == some '\r' && after != some '\n')
  | anyLineEnd => after.all (· == '\r') || (after == some '\n' && before != some '\r')
  | wordBoundary ascii => isWord ascii before != isWord ascii after
  | noWordBoundary ascii => isWord ascii before == isWord ascii after
  | wordStart ascii => !isWord ascii before && isWord ascii after
  | wordEnd ascii => isWord ascii before && !isWord ascii after
  | wordStartHalf ascii => !isWord ascii before
  | wordEndHalf ascii => !isWord ascii after

end Anchor

end DotQuery.Regex

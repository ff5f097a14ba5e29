/-!
What can be wrong with the text of a pattern.
-/

namespace DotQuery.Regex

inductive Malformation where
  | unclosedGroup
  | unopenedGroup
  | unclosedSet
  | reversedRange
  | boundNotCharacter
  | nothingToRepeat
  | malformedCount
  | reversedCount
  | unknownEscape
  | malformedCode
  | unknownBoundary
  | backReference
  | lookAround
  | malformedFlags
  | malformedName
  | repeatedName
  | beyondAscii
  | tooDeep
  | tooLarge
deriving DecidableEq

namespace Malformation

def message : Malformation → String
  | unclosedGroup => "a group is not closed"
  | unopenedGroup => "a group is closed that was not opened"
  | unclosedSet => "a set of characters is not closed"
  | reversedRange => "a range of characters ends before it starts"
  | boundNotCharacter => "a range of characters has a set for a bound"
  | nothingToRepeat => "a repetition follows nothing that can be repeated"
  | malformedCount => "a repetition count is malformed"
  | reversedCount => "a repetition ends before it starts"
  | unknownEscape => "an escape is not known"
  | malformedCode => "a character code is malformed"
  | unknownBoundary => "a kind of word boundary is not known"
  | backReference => "references to groups are not supported"
  | lookAround => "conditions on the surrounding text are not supported"
  | malformedFlags => "the flags of a group are malformed"
  | malformedName => "the name of a group is malformed"
  | repeatedName => "two groups have the same name"
  | beyondAscii => "a part that knows ASCII only would match parts of other characters"
  | tooDeep => "the pattern is nested too deeply"
  | tooLarge => "the pattern is too large"

end Malformation

end DotQuery.Regex

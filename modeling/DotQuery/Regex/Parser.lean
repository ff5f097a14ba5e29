import DotQuery.Regex.Footprint
import DotQuery.Regex.SetParser
import DotQuery.Text.Natural
import DotQuery.Text.Numeric

/-!
Reading patterns. A pattern is a choice of sequences; a sequence is made of characters, sets of
characters, anchors and groups, each of which may be repeated. Flags hold from where they are set to
the end of the group around them.
-/

namespace DotQuery.Regex

/-- A part of a pattern as it is written, which may be nested more deeply than what it comes to. -/
structure Part where
  pattern : Pattern
  depth : Nat
  /-- A change of flags, which matches the empty text and cannot be repeated. -/
  isSetting : Bool

namespace Part

def flat (pattern : Pattern) : Part :=
  ⟨pattern, 0, false⟩

/-- The depth of a list of parts, which is a level of its own if there are several. -/
def depthOfAll (parts : List Part) : Nat :=
  let inner := (parts.map Part.depth).foldl max 0
  if parts.length < 2 then inner else inner + 1

def ofSequence (parts : List Part) : Part :=
  ⟨.ofSequence (parts.map Part.pattern), depthOfAll parts, false⟩

def ofChoice (parts : List Part) : Part :=
  match parts with
  | [part] => part
  | parts => ⟨.ofChoice (parts.map Part.pattern), depthOfAll parts, false⟩

end Part

/-! ### Repetitions -/

/-- A count with white space around it. -/
def readCount : PatternReader Nat := do
  let text := (← peek).dropWhile Text.isBlank
  let digits := text.takeWhile Char.isDigit
  let count := Text.digitsValue digits
  if digits.isEmpty || 0x100000000 ≤ count then throw .malformedCount
  modify fun state => { state with rest := (text.drop digits.length).dropWhile Text.isBlank }
  skipSpace
  return count

/-- The counts between braces, of which the second may be missing or unbounded. -/
def readCounts : PatternReader (Nat × Option Nat) := do
  advance
  let least ← readCount
  match ← peek with
  | '\x7d' :: _ =>
    advance
    return (least, some least)
  | ',' :: _ =>
    advance
    match ← peek with
    | '\x7d' :: _ =>
      advance
      return (least, none)
    | _ =>
      let most ← readCount
      match ← peek with
      | '\x7d' :: _ =>
        advance
        if most < least then throw .reversedCount
        return (least, some most)
      | _ => throw .malformedCount
  | _ => throw .malformedCount

/-- Repeats the last of the items, which stand in reverse order. A question mark makes the
repetition prefer fewer rounds. -/
def repeatLast (least : Nat) (most : Option Nat) (items : List Part) :
    PatternReader (List Part) := do
  let swapped := (← flagsInForce).swapGreed
  let isLazy := (← peek).head? == some '?'
  if isLazy then skip 1
  match items with
  | [] => throw .nothingToRepeat
  | item :: earlier =>
    if item.isSetting then throw .nothingToRepeat
    let pattern := Pattern.ofRepetition least most (isLazy == swapped) item.pattern
    return ⟨pattern, item.depth + 1, false⟩ :: earlier

/-! ### Groups -/

def setFlag (flags : Flags) (value : Bool) : Char → Option Flags
  | 'i' => some { flags with ignoreCase := value }
  | 'm' => some { flags with multiLine := value }
  | 's' => some { flags with dotMatchesNewline := value }
  | 'U' => some { flags with swapGreed := value }
  | 'x' => some { flags with ignoreSpace := value }
  | 'R' => some { flags with anyLineEnding := value }
  | 'u' => some { flags with asciiOnly := !value }
  | _ => none

/-- The flags that letters set, and after a minus sign unset, each letter at most once. -/
def applyFlags (value : Bool) (seen : List Char) : List Char → Flags → Option Flags
  | [], flags => some flags
  | '-' :: rest, flags =>
    if value && !rest.isEmpty then applyFlags false seen rest flags else none
  | c :: rest, flags => do
    if seen.contains c then none
    let flags ← setFlag flags value c
    applyFlags value (c :: seen) rest flags

def isNameStart (c : Char) : Bool :=
  c == '_' || Text.isAlphabetic c

def isNameCharacter (c : Char) : Bool :=
  isNameStart c || Text.isNumeric c || c == '.' || c == '[' || c == ']'

/-- The name of a group, up to its closing angle bracket. -/
def readName : PatternReader Unit := do
  let text ← peek
  let name := text.takeWhile (· != '>')
  match name with
  | [] => throw .malformedName
  | c :: rest =>
    if !isNameStart c || !rest.all isNameCharacter || name.length = text.length then
      throw .malformedName
    if (← get).names.contains name then throw .repeatedName
    modify fun state =>
      { state with rest := text.drop (name.length + 1), names := name :: state.names }

inductive GroupStart where
  /-- A group with a number, or one for its flags and its brackets only. -/
  | body (number : Option Nat) (flags : Flags)
  | setting (flags : Flags)

/-- Counts a group that has a number. -/
def readNumber : PatternReader GroupStart := do
  let state ← get
  set { state with groups := state.groups + 1 }
  return .body (some (state.groups + 1)) state.flags

/-- What follows an opening bracket, up to the body of the group. -/
def readGroupStart : PatternReader GroupStart := do
  let flags ← flagsInForce
  match ← peek with
  | '?' :: '=' :: _ | '?' :: '!' :: _ | '?' :: '<' :: '=' :: _ | '?' :: '<' :: '!' :: _ =>
    throw .lookAround
  | '?' :: 'P' :: '<' :: _ =>
    skip 3
    readName
    readNumber
  | '?' :: '<' :: _ =>
    skip 2
    readName
    readNumber
  | '?' :: rest =>
    let letters := rest.takeWhile fun c => c != ':' && c != ')'
    match applyFlags true [] letters flags, rest.drop letters.length with
    | some flags, ':' :: _ =>
      skip (letters.length + 2)
      return .body none flags
    | some flags, ')' :: _ =>
      if letters.isEmpty then throw .nothingToRepeat
      skip (letters.length + 2)
      return .setting flags
    | _, _ => throw .malformedFlags
  | _ => readNumber

/-- A group, one level deeper than its body. -/
def Part.ofGroup (number : Option Nat) (body : Part) : Part :=
  ⟨number.elim body.pattern (Pattern.group · body.pattern), body.depth + 1, false⟩

/-! ### Sequences -/

def lineEnds (flags : Flags) : CharSet :=
  if flags.dotMatchesNewline then .empty
  else if flags.anyLineEnding then .ofCharRanges [('\n', '\n'), ('\r', '\r')]
  else .single '\n'

def lineStartAnchor (flags : Flags) : Anchor :=
  if !flags.multiLine then .textStart
  else if flags.anyLineEnding then .anyLineStart
  else .lineStart

def lineEndAnchor (flags : Flags) : Anchor :=
  if !flags.multiLine then .textEnd
  else if flags.anyLineEnding then .anyLineEnd
  else .lineEnd

def readPrimitive (c : Char) : PatternReader Pattern := do
  let flags ← flagsInForce
  match c with
  | '.' =>
    skip 1
    return .ofSet (← flags.check (lineEnds flags).complement)
  | '^' =>
    skip 1
    return .anchor (lineStartAnchor flags)
  | '$' =>
    skip 1
    return .anchor (lineEndAnchor flags)
  | '\\' =>
    match ← readEscape with
    | .character c => return .ofSet (flags.fold (.single c))
    | .set set => return .ofSet set
    | .anchor anchor => return .anchor anchor
  | c =>
    skip 1
    return .ofSet (flags.fold (.single c))

/-- A choice up to the end of the text or the bracket that closes the group around it. The items of
the current sequence and the sequences before it stand in reverse order. -/
def readChoice (fuel : Nat) (items branches : List Part) : PatternReader Part := do
  match fuel with
  | 0 => throw .unclosedGroup
  | fuel + 1 =>
    let finish := Part.ofSequence items.reverse
    skipSpace
    match ← peek with
    | [] | ')' :: _ => return .ofChoice (finish :: branches).reverse
    | '|' :: _ =>
      skip 1
      readChoice fuel [] (finish :: branches)
    | '(' :: _ =>
      advance
      let outer ← flagsInForce
      match ← readGroupStart with
      | .setting flags =>
        modify fun state => { state with flags := flags }
        readChoice fuel (⟨.empty, 0, true⟩ :: items) branches
      | .body number flags =>
        modify fun state => { state with flags := flags }
        let body ← readChoice fuel [] []
        match ← peek with
        | ')' :: _ =>
          skip 1
          modify fun state => { state with flags := outer }
          readChoice fuel (.ofGroup number body :: items) branches
        | _ => throw .unclosedGroup
    | '[' :: rest =>
      let nested ← readSet (rest.length + 2)
      readChoice fuel (⟨.ofSet nested.set, nested.depth, false⟩ :: items) branches
    | '?' :: _ =>
      skip 1
      readChoice fuel (← repeatLast 0 (some 1) items) branches
    | '*' :: _ =>
      skip 1
      readChoice fuel (← repeatLast 0 none items) branches
    | '+' :: _ =>
      skip 1
      readChoice fuel (← repeatLast 1 none items) branches
    | '\x7b' :: _ =>
      if items.isEmpty then throw .nothingToRepeat
      let (least, most) ← readCounts
      readChoice fuel (← repeatLast least most items) branches
    | c :: _ =>
      let item ← readPrimitive c
      readChoice fuel (.flat item :: items) branches

def maxDepth : Nat := 250

/-- The pattern that `text` is written for. -/
def parse (text : List Char) : Except Malformation Pattern := do
  let (part, state) ← readChoice (text.length + 1) [] [] |>.run ⟨text, .none, [], 0⟩
  if !state.rest.isEmpty then throw .unopenedGroup
  if maxDepth < part.depth then throw .tooDeep
  if !part.pattern.fits then throw .tooLarge
  return part.pattern

end DotQuery.Regex

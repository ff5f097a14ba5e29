import DotQuery.Regex.Anchor
import DotQuery.Regex.Malformation
import DotQuery.Text.Blank
import DotQuery.Text.Natural

/-!
What patterns are read from: the text that is left, the flags in force, and what a backslash stands
for under them.
-/

namespace DotQuery.Regex

structure Flags where
  ignoreCase : Bool
  multiLine : Bool
  dotMatchesNewline : Bool
  swapGreed : Bool
  ignoreSpace : Bool
  /-- A carriage return ends a line too. -/
  anyLineEnding : Bool
  /-- Classes, word boundaries and case variants are those of ASCII. -/
  asciiOnly : Bool

namespace Flags

def none : Flags :=
  ⟨false, false, false, false, false, false, false⟩

/-- The set with all case variants of its characters, where the flags say that case has no
meaning. -/
def fold (flags : Flags) (set : CharSet) : CharSet :=
  if !flags.ignoreCase then set
  else if flags.asciiOnly then set.foldAscii
  else set.fold

/-- The set under flags that may keep to ASCII, where a set may not hold other characters. -/
def check (flags : Flags) (set : CharSet) : Except Malformation CharSet :=
  if flags.asciiOnly && !set.isAscii then .error .beyondAscii else .ok set

def negate (flags : Flags) (negated : Bool) (set : CharSet) : Except Malformation CharSet :=
  flags.check (if negated then set.complement else set)

end Flags

/-- What is left to read, the flags in force, and the names and the number of the groups so far. -/
structure ReadState where
  rest : List Char
  flags : Flags
  names : List (List Char)
  groups : Nat

abbrev PatternReader := StateT ReadState (Except Malformation)

def peek : PatternReader (List Char) :=
  return (← get).rest

def flagsInForce : PatternReader Flags :=
  return (← get).flags

def skip (count : Nat) : PatternReader Unit :=
  modify fun state => { state with rest := state.rest.drop count }

def skipComment (text : List Char) : List Char :=
  (text.dropWhile (· != '\n')).drop 1

/-- Drops white space and comments. -/
def dropSpace : Nat → List Char → List Char
  | 0, text => text
  | fuel + 1, text =>
    match text.dropWhile Text.isBlank with
    | '#' :: rest => dropSpace fuel (skipComment rest)
    | text => text

/-- Passes over white space and comments where the flags say that they have no meaning. -/
def skipSpace : PatternReader Unit :=
  modify fun state =>
    if state.flags.ignoreSpace then
      { state with rest := dropSpace (state.rest.length + 1) state.rest }
    else state

/-- Passes over a character and the white space behind it. -/
def advance : PatternReader Unit := do
  skip 1
  skipSpace

/-! ### Character codes -/

def characterOfHex (digits : List Char) : Except Malformation Char :=
  match (Text.numeral? 16 digits).bind Text.character? with
  | some c => .ok c
  | none => .error .malformedCode

/-- `count` digits. -/
def readDigits : Nat → PatternReader (List Char)
  | 0 => return []
  | count + 1 => do
    match ← peek with
    | [] => throw .malformedCode
    | c :: _ =>
      advance
      return c :: (← readDigits count)

/-- The digits up to a closing brace; `fuel` bounds their number. -/
def readDigitsInBraces : Nat → PatternReader (List Char)
  | 0 => throw .malformedCode
  | fuel + 1 => do
    match ← peek with
    | [] => throw .malformedCode
    | '\x7d' :: _ =>
      advance
      return []
    | c :: _ =>
      advance
      return c :: (← readDigitsInBraces fuel)

/-- A character code of `width` digits, or of any number of digits between braces. -/
def readCode (width : Nat) : PatternReader Char := do
  advance
  match ← peek with
  | '\x7b' :: rest =>
    advance
    characterOfHex (← readDigitsInBraces (rest.length + 1))
  | _ =>
    let c ← characterOfHex (← readDigits width)
    if width = 2 && 128 ≤ c.toNat && (← flagsInForce).asciiOnly then throw .beyondAscii
    return c

/-! ### Escapes -/

inductive Escaped where
  | character (c : Char)
  | set (set : CharSet)
  | anchor (anchor : Anchor)

/-- A character that stands for itself after a backslash. -/
def isEscapable (c : Char) : Bool :=
  c.toNat < 128 && !c.isAlphanum && c != '<' && c != '>'

def isBoundaryLetter (c : Char) : Bool :=
  c.isAlpha || c == '-'

/-- The letters of the name of a word boundary; `fuel` bounds their number. -/
def readBoundaryName : Nat → PatternReader (List Char)
  | 0 => return []
  | fuel + 1 => do
    match ← peek with
    | c :: _ =>
      if isBoundaryLetter c then
        advance
        return c :: (← readBoundaryName fuel)
      else return []
    | [] => return []

def namedBoundary? (ascii : Bool) : String → Option Anchor
  | "start" => some (.wordStart ascii)
  | "end" => some (.wordEnd ascii)
  | "start-half" => some (.wordStartHalf ascii)
  | "end-half" => some (.wordEndHalf ascii)
  | _ => none

/-- A word boundary, whose kind may stand in braces. Braces that hold anything but a name are left
for a repetition count. -/
def readBoundary (ascii : Bool) : PatternReader Anchor := do
  match ← peek with
  | '\x7b' :: rest =>
    let state ← get
    advance
    match ← peek with
    | [] => throw .unknownBoundary
    | c :: _ =>
      if isBoundaryLetter c then
        let name ← readBoundaryName rest.length
        match namedBoundary? ascii (String.ofList name), ← peek with
        | some place, '\x7d' :: _ =>
          skip 1
          return place
        | _, _ => throw .unknownBoundary
      else
        set state
        return .wordBoundary ascii
  | _ => return .wordBoundary ascii

/-- What a backslash with the text after it stands for. -/
def readEscape : PatternReader Escaped := do
  let flags ← flagsInForce
  let ascii := flags.asciiOnly
  let named (negated : Bool) (all inAscii : CharSet) : PatternReader Escaped := do
    return .set (← flags.negate negated (if ascii then inAscii else all))
  skip 1
  match ← peek with
  | [] => throw .unknownEscape
  | 'x' :: _ => return .character (← readCode 2)
  | 'u' :: _ => return .character (← readCode 4)
  | 'U' :: _ => return .character (← readCode 8)
  | c :: _ =>
    skip 1
    match c with
    | 'd' => named false .digit .asciiDigit
    | 's' => named false .space .asciiSpace
    | 'w' => named false .word .asciiWord
    | 'D' => named true .digit .asciiDigit
    | 'S' => named true .space .asciiSpace
    | 'W' => named true .word .asciiWord
    | 'a' => return .character '\x07'
    | 'f' => return .character '\x0c'
    | 't' => return .character '\t'
    | 'n' => return .character '\n'
    | 'r' => return .character '\r'
    | 'v' => return .character '\x0b'
    | 'A' => return .anchor .textStart
    | 'z' => return .anchor .textEnd
    | 'b' => return .anchor (← readBoundary ascii)
    | 'B' => return .anchor (.noWordBoundary ascii)
    | '<' => return .anchor (.wordStart ascii)
    | '>' => return .anchor (.wordEnd ascii)
    | c =>
      if c.isDigit then throw .backReference
      else if isEscapable c then return .character c
      else throw .unknownEscape

end DotQuery.Regex

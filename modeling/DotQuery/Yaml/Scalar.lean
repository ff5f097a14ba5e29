import DotQuery.Text.Natural
import DotQuery.Yaml.Cursor

/-!
Written scalars of YAML. A quoted one ends at its quote. A plain one ends before a comment, before a
colon that is followed by a space, and inside the brackets of a flow collection also at a comma or
bracket. Both may go on over several lines, whose breaks fold into spaces.
-/

namespace DotQuery.Yaml

/-! ### White space inside a scalar -/

/-- The white space between two parts of a scalar: the spaces before the first line break, that
break, and those after it. Spaces stand in reverse order, and so do the later breaks. -/
structure Gap where
  hasBreak : Bool
  spaces : List Char
  first : Option Char
  later : List Char

namespace Gap

def none : Gap :=
  ⟨false, [], .none, []⟩

/-- The gap behind an escaped line break, which itself stands for nothing. -/
def escapedBreak : Gap :=
  ⟨true, [], .none, []⟩

def addSpace (c : Char) (gap : Gap) : Gap :=
  if gap.hasBreak then gap else { gap with spaces := c :: gap.spaces }

def addBreak (c : Char) (gap : Gap) : Gap :=
  let c := breakText c
  if gap.hasBreak then { gap with later := c :: gap.later } else ⟨true, [], some c, []⟩

/-- What the gap stands for: its spaces, a space for a single line break, and the breaks after the
first for several. -/
def text (gap : Gap) : List Char :=
  if !gap.hasBreak then gap.spaces.reverse
  else if gap.first = some '\n' then
    if gap.later.isEmpty then [' '] else gap.later.reverse
  else gap.first.toList ++ gap.later.reverse

end Gap

/-- What becomes of a tab that stands before column `floor` of a line. -/
inductive TabRule where
  | ignored
  | refused (floor : Int)
  | refusedBeforeContent (floor : Int)

/-- The cursor behind a tab at the start of a line, if the tab may stand there. -/
def TabRule.skipTab? (rule : TabRule) (dialect : Dialect) (here : Cursor) : Option Cursor :=
  match rule with
  | .ignored => some (here.advance 1)
  | .refused floor => if (here.column : Int) < floor then none else some (here.advance 1)
  | .refusedBeforeContent floor =>
    if (here.column : Int) < floor then do
      let next ← here.skipToLineEnd? dialect
      if endsLine dialect next.rest then return next else none
    else some (here.advance 1)

/-- Adds white space and line breaks to a gap; `fuel` bounds their number. -/
def takeGap? (dialect : Dialect) (rule : TabRule) :
    Nat → Gap → Cursor → Option (Gap × Cursor)
  | 0, gap, here => some (gap, here)
  | fuel + 1, gap, here =>
    match here.rest with
    | [] => some (gap, here)
    | c :: _ =>
      if isBreak dialect c then takeGap? dialect rule fuel (gap.addBreak c) here.nextLine
      else if c == '\t' && gap.hasBreak then do
        takeGap? dialect rule fuel gap (← rule.skipTab? dialect here)
      else if isSpace c then takeGap? dialect rule fuel (gap.addSpace c) (here.advance 1)
      else some (gap, here)

/-! ### Plain scalars -/

/-- Whether a plain scalar ends before `text`. -/
def endsPlain (dialect : Dialect) (flow : Bool) : List Char → Bool
  | [] => true
  | c :: rest =>
    isSpaceOrBreak dialect c || (c == ':' && endsToken dialect rest) ||
      (flow && (isFlowIndicator c ||
        (dialect = .settings && c == ':' && rest.head?.any isFlowIndicator)))

/-- A colon inside a flow collection of a document that neither ends a key nor may be part of a
plain scalar. -/
def isMisplacedColon (text : List Char) : Bool :=
  match text with
  | ':' :: c :: _ => isFlowIndicator c || c == '?'
  | _ => false

/-- The characters of a plain scalar up to white space or its end, in reverse order before those in
`done`, and what follows them. -/
def takeWord? (dialect : Dialect) (flow : Bool) (done : List Char) :
    List Char → Option (List Char × List Char)
  | [] => some (done, [])
  | c :: rest =>
    if dialect = .document && flow && isMisplacedColon (c :: rest) then none
    else if endsPlain dialect flow (c :: rest) then some (done, c :: rest)
    else takeWord? dialect flow (c :: done) rest

/-- A plain scalar that has been read. -/
structure Scanned where
  text : List Char
  /-- Line breaks follow the last character. -/
  endsAfterBreak : Bool
  cursor : Cursor

/-- The parts of a plain scalar from a cursor on, behind those in `done`, which stand in reverse
order. Further lines must stand at columns from `floor` on. -/
def takePlain? (dialect : Dialect) (flow : Bool) (floor : Int) :
    Nat → List Char → Gap → Cursor → Option Scanned
  | 0, _, _, _ => none
  | fuel + 1, done, gap, here => do
    let stop : Scanned := ⟨done.reverse, gap.hasBreak, here⟩
    if here.column = 0 && startsWithDocumentMark dialect here.rest then return stop
    match here.rest with
    | '#' :: _ => return stop
    | '-' :: c :: _ =>
      if dialect = .settings && flow && isFlowIndicator c then none
    | _ => pure ()
    let (word, rest) ← takeWord? dialect flow [] here.rest
    let next := here.advance word.length
    let (done, gap) :=
      if word.isEmpty then (done, gap) else (word ++ gap.text.reverse ++ done, .none)
    if !(rest.head?.any (isSpaceOrBreak dialect)) then
      return ⟨done.reverse, gap.hasBreak, next⟩
    let rule : TabRule :=
      if dialect = .document then .refused floor else .refusedBeforeContent floor
    let (gap, next) ← takeGap? dialect rule (fuel + 1) gap next
    if !flow && (next.column : Int) < floor then return ⟨done.reverse, gap.hasBreak, next⟩
    takePlain? dialect flow floor fuel done gap next

/-! ### Quoted scalars -/

def escapedCharacter? : Char → Option Char
  | '0' => some '\x00'
  | 'a' => some '\x07'
  | 'b' => some '\x08'
  | 't' | '\t' => some '\t'
  | 'n' => some '\n'
  | 'v' => some '\x0b'
  | 'f' => some '\x0c'
  | 'r' => some '\r'
  | 'e' => some '\x1b'
  | ' ' => some ' '
  | '"' => some '"'
  | '/' => some '/'
  | '\\' => some '\\'
  | 'N' => some nextLineMark
  | '_' => some (Char.ofNat 0xA0)
  | 'L' => some '\u2028'
  | 'P' => some '\u2029'
  | _ => none

def codeWidth? : Char → Option Nat
  | 'x' => some 2
  | 'u' => some 4
  | 'U' => some 8
  | _ => none

/-- The character whose code is given by exactly `width` digits. -/
def codeCharacter? (width : Nat) (text : List Char) : Option Char := do
  if text.length < width then none
  let code ← Text.numeral? 16 (text.take width)
  Text.character? code

/-- The character that an escape with its backslash stands for, and the length of the escape. -/
def takeEscape? (text : List Char) : Option (Char × Nat) := do
  let c ← text[1]?
  match codeWidth? c with
  | some width => return (← codeCharacter? width (text.drop 2), width + 2)
  | none => return (← escapedCharacter? c, 2)

/-- The characters of a quoted scalar up to white space or its closing quote, in reverse order
before those in `done`, and the gap that an escaped line break starts. -/
def takeQuotedWord? (dialect : Dialect) (quote : Char) :
    Nat → List Char → Cursor → Option (List Char × Gap × Cursor)
  | 0, _, _ => none
  | fuel + 1, done, here =>
    let stop := some (done, Gap.none, here)
    match here.rest with
    | [] => stop
    | c :: rest =>
      if isSpaceOrBreak dialect c then stop
      else if c == quote then
        if quote == '\'' && rest.head? == some '\'' then
          takeQuotedWord? dialect quote fuel ('\'' :: done) (here.advance 2)
        else stop
      else if quote == '"' && c == '\\' then
        if rest.head?.any (isBreak dialect) then
          some (done, .escapedBreak, (here.advance 1).nextLine)
        else do
          let (character, length) ← takeEscape? here.rest
          takeQuotedWord? dialect quote fuel (character :: done) (here.advance length)
      else takeQuotedWord? dialect quote fuel (c :: done) (here.advance 1)

/-- The parts of a quoted scalar up to its closing quote, behind those in `done`, which stand in
reverse order. In settings, its lines must stand at columns from `floor` on. -/
def takeQuoted? (dialect : Dialect) (quote : Char) (floor : Int) :
    Nat → List Char → Cursor → Option (List Char × Cursor)
  | 0, _, _ => none
  | fuel + 1, done, here => do
    if here.column = 0 && startsWithDocumentMark dialect here.rest then none
    if here.rest.isEmpty then none
    if dialect = .settings && (here.column : Int) < floor then none
    let (done, gap, next) ← takeQuotedWord? dialect quote (fuel + 1) done here
    if next.rest.head? == some quote then return (done.reverse, next.advance 1)
    let rule : TabRule := if dialect = .document then .ignored else .refused floor
    let (gap, next) ← takeGap? dialect rule (fuel + 1) gap next
    takeQuoted? dialect quote floor fuel (gap.text.reverse ++ done) next

end DotQuery.Yaml

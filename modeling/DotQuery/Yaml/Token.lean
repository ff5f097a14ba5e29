import DotQuery.Yaml.Scalar

/-!
The tokens of YAML text. Columns of block collections become tokens for their starts and ends. What
may turn out to be a key is remembered with its place among the tokens, and marked as a key there
when a colon follows it.
-/

namespace DotQuery.Yaml

inductive Token where
  | documentStart
  | documentEnd
  | blockSequenceStart
  | blockMappingStart
  | blockEnd
  | flowSequenceStart
  | flowSequenceEnd
  | flowMappingStart
  | flowMappingEnd
  | blockEntry
  | flowEntry
  | key
  | value
  | scalar (quoted : Bool) (text : String)
deriving DecidableEq

/-- What may be a key: where it starts, and how many tokens stand before it. -/
structure PossibleKey where
  token : Nat
  index : Nat
  line : Nat
  column : Nat
  /-- Nothing but a key may stand there. -/
  required : Bool

inductive FlowKind where
  | sequence
  | mapping
deriving DecidableEq

/-- A flow collection that is open, with the possible key before it. -/
structure OpenFlow where
  kind : FlowKind
  outerKey : Option PossibleKey

def OpenFlow.filterKey (keep : PossibleKey → Bool) (flow : OpenFlow) : OpenFlow :=
  ⟨flow.kind, flow.outerKey.filter keep⟩

/-- How many flow collections may be open at once. -/
def maxOpenFlows : Dialect → Nat
  | .document => 128
  | .settings => 255

/-- The column of a block collection around another. A block that was only foreseen, because a value
must be indented, has no tokens. -/
structure OuterIndent where
  column : Int
  isBlock : Bool

structure Scanner where
  cursor : Cursor
  tokens : Array Token
  /-- The column of the innermost block collection; none has column -1. -/
  indent : Int
  outer : List OuterIndent
  flows : List OpenFlow
  possibleKey : Option PossibleKey
  keyAllowed : Bool
  /-- Where a colon may stand next to the value after it, because what is before is no plain text.
  -/
  adjacentValueAt : Option Nat

abbrev Scan := StateT Scanner Option

namespace Scan

def inFlow : Scan Bool :=
  return !(← get).flows.isEmpty

def emit (token : Token) : Scan Unit :=
  modify fun s => { s with tokens := s.tokens.push token }

def moveTo (cursor : Cursor) : Scan Unit :=
  modify fun s => { s with cursor := cursor }

def allowKey (allowed : Bool) : Scan Unit :=
  modify fun s => { s with keyAllowed := allowed }

/-! ### Indentation -/

/-- Ends the blocks that are indented more than `column`. -/
def closeBlocks (column : Int) : List OuterIndent → Scan Unit
  | [] => return
  | next :: rest => do
    if column < (← get).indent then
      modify fun s => { s with indent := next.column, outer := rest }
      if next.isBlock then emit .blockEnd
      closeBlocks column rest

def unindent (column : Int) : Scan Unit := do
  if !(← inFlow) then closeBlocks column (← get).outer

/-- Gives up a block that was foreseen, from `column` on. -/
def dropForeseen (column : Int) : Scan Unit :=
  modify fun s =>
    match s.outer with
    | ⟨indent, false⟩ :: rest =>
      if s.indent ≤ column then { s with indent := indent, outer := rest } else s
    | _ => s

/-- Starts a block at `column`, unless it is there already, with its token before that numbered
`position`. -/
def indentTo (column : Nat) (position : Nat) (token : Token) : Scan Unit := do
  if !(← inFlow) then
    dropForeseen column
    let s ← get
    if s.indent < (column : Int) then
      set { s with
        indent := column
        outer := ⟨s.indent, true⟩ :: s.outer
        tokens := s.tokens.insertIdxIfInBounds position token }

/-- Foresees a block whose column is not known yet. Documents have no need of that. -/
def foreseeBlock (dialect : Dialect) : Scan Unit := do
  if dialect = .settings && !(← inFlow) then
    modify fun s =>
      match s.outer with
      | ⟨_, true⟩ :: _ => { s with indent := s.indent + 1, outer := ⟨s.indent, false⟩ :: s.outer }
      | _ => s

/-! ### Keys -/

/-- Whether a key must have its colon on its own line and soon. -/
def isStale (dialect : Dialect) (s : Scanner) (key : PossibleKey) : Bool :=
  (dialect = .document || s.flows.isEmpty) &&
    (key.line < s.cursor.line || key.index + 1024 < s.cursor.index)

def refuseRequired (key : Option PossibleKey) : Scan Unit :=
  if key.any (·.required) then failure else return

/-- Forgets the keys whose colon has not come in time. -/
def dropStaleKeys (dialect : Dialect) : Scan Unit := do
  let s ← get
  let stale := isStale dialect s
  let keys := s.possibleKey :: s.flows.map OpenFlow.outerKey
  if keys.any fun key => key.any fun key => stale key && key.required then failure
  set { s with
    possibleKey := s.possibleKey.filter (!stale ·)
    flows := s.flows.map (OpenFlow.filterKey (!stale ·)) }

def forgetKey : Scan Unit := do
  refuseRequired (← get).possibleKey
  modify fun s => { s with possibleKey := none }

/-- Remembers that what comes next may be a key. -/
def noteKey (dialect : Dialect) : Scan Unit := do
  let s ← get
  if s.keyAllowed then
    if dialect = .document then forgetKey
    let required := s.flows.isEmpty && s.indent == (s.cursor.column : Int) &&
      s.outer.head?.any (·.isBlock)
    let key : PossibleKey :=
      ⟨s.tokens.size, s.cursor.index, s.cursor.line, s.cursor.column, required⟩
    modify fun s => { s with possibleKey := some key }

/-! ### White space between tokens -/

/-- Passes over white space and comments; `fuel` bounds their number. Tabs in a document count only
where no key may start. -/
def skipInDocument : Nat → Scan Unit
  | 0 => return
  | fuel + 1 => do
    let s ← get
    let here := match s.cursor.rest with
      | '\ufeff' :: _ => if s.cursor.column = 0 then s.cursor.advance 1 else s.cursor
      | _ => s.cursor
    let tabs := !s.flows.isEmpty || !s.keyAllowed
    let here := (here.skipWhile fun c => c == ' ' || (tabs && c == '\t')).skipComment .document
    if here.rest.head?.any (isBreak .document) then
      set { s with cursor := here.nextLine, keyAllowed := s.keyAllowed || s.flows.isEmpty }
      skipInDocument fuel
    else moveTo here

/-- Passes over white space and comments. Tabs in settings may not indent what a block holds. -/
def skipInSettings : Nat → Scan Unit
  | 0 => return
  | fuel + 1 => do
    let s ← get
    let here := s.cursor
    match here.rest with
    | [] => return
    | c :: _ =>
      if isBreak .settings c then
        set { s with cursor := here.nextLine, keyAllowed := s.keyAllowed || s.flows.isEmpty }
        skipInSettings fuel
      else if c == '\t' && !s.outer.isEmpty && here.leading && (here.column : Int) < s.indent then
        let next ← here.skipToLineEnd? .settings
        if !endsLine .settings next.rest then failure
        moveTo next
        skipInSettings fuel
      else if isSpace c then
        moveTo (here.advance 1)
        skipInSettings fuel
      else if c == '#' then
        moveTo (here.skipComment .settings)
        skipInSettings fuel
      else return

def skipBlank (dialect : Dialect) (fuel : Nat) : Scan Unit :=
  match dialect with
  | .document => skipInDocument fuel
  | .settings => skipInSettings fuel

/-- Passes over white space and a comment behind an indicator. A comment in settings may not stand
next to the indicator. -/
def skipBehindIndicator (dialect : Dialect) : Scan Unit := do
  if dialect = .settings then
    moveTo (← (← get).cursor.skipToLineEnd? dialect)

def skip (count : Nat) : Scan Unit :=
  modify fun s => { s with cursor := s.cursor.advance count }

/-! ### Tokens -/

def scanDocumentMark (dialect : Dialect) (token : Token) : Scan Unit := do
  unindent (-1)
  forgetKey
  allowKey false
  skip 3
  emit token
  if dialect = .settings && token = .documentEnd then
    skipBehindIndicator dialect
    if !endsLine dialect (← get).cursor.rest then failure

def scanFlowStart (dialect : Dialect) (kind : FlowKind) (token : Token) : Scan Unit := do
  noteKey dialect
  foreseeBlock dialect
  let s ← get
  if maxOpenFlows dialect ≤ s.flows.length then failure
  set { s with
    flows := ⟨kind, s.possibleKey⟩ :: s.flows
    possibleKey := none
    keyAllowed := true }
  skip 1
  skipBehindIndicator dialect
  emit token

def scanFlowEnd (dialect : Dialect) (token : Token) : Scan Unit := do
  forgetKey
  modify fun s =>
    match s.flows with
    | flow :: rest => { s with flows := rest, possibleKey := flow.outerKey }
    | [] => s
  allowKey false
  skip 1
  skipBehindIndicator dialect
  modify fun s => { s with adjacentValueAt := some s.cursor.index }
  emit token

def scanFlowEntry (dialect : Dialect) : Scan Unit := do
  forgetKey
  allowKey true
  skip 1
  skipBehindIndicator dialect
  emit .flowEntry

/-- A hyphen behind a hyphen and a tab, which settings refuse. -/
def hasTabbedEntry (text : List Char) : Bool :=
  let spaces := text.takeWhile isSpace
  spaces.contains '\t' &&
    match text.drop spaces.length with
    | '-' :: rest => endsToken .settings rest
    | _ => false

def scanBlockEntry (dialect : Dialect) : Scan Unit := do
  if ← inFlow then
    if dialect = .settings then failure
  else
    let s ← get
    if !s.keyAllowed then failure
    indentTo s.cursor.column s.tokens.size .blockSequenceStart
  skip 1
  if dialect = .settings then
    if hasTabbedEntry (← get).cursor.rest then failure
    skipBehindIndicator dialect
    let rest := (← get).cursor.rest
    if rest.head?.any fun c => isBreak dialect c || isFlowIndicator c then foreseeBlock dialect
  forgetKey
  allowKey true
  emit .blockEntry

/-- A letter, digit, hyphen or underscore. -/
def isNameLetter (c : Char) : Bool :=
  c.isAlphanum || c == '-' || c == '_'

/-- A value that only tabs separate from its colon, which settings refuse. -/
def hasTabbedValue (text : List Char) : Bool :=
  let spaces := text.takeWhile isSpace
  text.head? == some '\t' && !spaces.contains ' ' &&
    (text.drop spaces.length).head?.any isNameLetter

def scanValue (dialect : Dialect) : Scan Unit := do
  let s ← get
  skip 1
  let rest := (← get).cursor.rest
  if dialect = .settings && rest.head? == some '\t' then
    if hasTabbedValue rest then failure
    skipBehindIndicator dialect
  match s.possibleKey with
  | some key =>
    if dialect = .settings && s.flows.head?.any (·.kind = .sequence) &&
        key.line < s.cursor.line then
      failure
    modify fun s =>
      { s with tokens := s.tokens.insertIdxIfInBounds key.token .key, possibleKey := none }
    indentTo key.column key.token .blockMappingStart
    foreseeBlock dialect
    allowKey false
  | none =>
    if s.flows.isEmpty then
      if !s.keyAllowed then failure
      indentTo s.cursor.column s.tokens.size .blockMappingStart
    foreseeBlock dialect
    allowKey s.flows.isEmpty
  emit .value

def scanKey : Scan Unit := do
  let s ← get
  if s.flows.isEmpty then
    if !s.keyAllowed then failure
    indentTo s.cursor.column s.tokens.size .blockMappingStart
  forgetKey
  allowKey s.flows.isEmpty
  skip 1
  emit .key

/-- What may follow a quoted scalar of settings on its line: nothing, the colon of a key on one
line, or what goes on with a flow collection. -/
def mayFollowQuoted (inFlow oneLine : Bool) (rest : List Char) : Bool :=
  match rest with
  | ':' :: _ => inFlow || oneLine
  | ',' :: _ | ']' :: _ | '\x7d' :: _ => inFlow
  | _ => endsLine .settings rest

def scanQuoted (dialect : Dialect) (fuel : Nat) (quote : Char) : Scan Unit := do
  noteKey dialect
  allowKey false
  let s ← get
  let (text, next) ← takeQuoted? dialect quote s.indent fuel [] (s.cursor.advance 1)
  moveTo next
  if dialect = .settings then
    skipBehindIndicator dialect
    let here := (← get).cursor
    if !mayFollowQuoted (!s.flows.isEmpty) (s.cursor.line == here.line) here.rest then failure
    skipBlank dialect fuel
    modify fun s => { s with adjacentValueAt := some s.cursor.index }
  emit (.scalar true (String.ofList text))

def scanPlain (dialect : Dialect) (fuel : Nat) : Scan Unit := do
  noteKey dialect
  allowKey false
  dropForeseen (← get).indent
  let s ← get
  let floor := s.indent + 1
  if dialect = .settings && !s.flows.isEmpty && (s.cursor.column : Int) < floor then failure
  let scanned ← takePlain? dialect (!s.flows.isEmpty) floor fuel [] .none s.cursor
  moveTo scanned.cursor
  if scanned.endsAfterBreak then allowKey true
  emit (.scalar false (String.ofList scanned.text))

/-- Whether a colon that comes next stands before a value. -/
def announcesValue (dialect : Dialect) (s : Scanner) (rest : List Char) : Bool :=
  endsToken dialect rest || (!s.flows.isEmpty &&
    (dialect = .document || rest.head?.any isFlowIndicator ||
      s.adjacentValueAt == some s.cursor.index))

def announcesKey (dialect : Dialect) (s : Scanner) (rest : List Char) : Bool :=
  endsToken dialect rest || (dialect = .document && !s.flows.isEmpty)

/-- Characters that begin neither a plain scalar nor anything that documents and settings hold. -/
def isReserved (c : Char) : Bool :=
  c == '&' || c == '*' || c == '!' || c == '%' || c == '@' || c == '`'

/-- Whether a plain scalar may start with `c`, which is no other token, before `rest`. -/
def startsPlain (dialect : Dialect) (s : Scanner) (c : Char) (rest : List Char) : Bool :=
  let isBlockScalar := c == '|' || c == '>'
  match dialect with
  | .document =>
    if c == '-' then !rest.head?.any isSpace
    else if c == '?' || c == ':' then s.flows.isEmpty && !endsToken dialect rest
    else !isReserved c && !isBlockScalar && !isSpaceOrBreak dialect c
  | .settings => !isReserved c && !(isBlockScalar && s.flows.isEmpty)

/-- Reads the next token. -/
def scanToken (dialect : Dialect) (fuel : Nat) (c : Char) (rest : List Char) : Scan Unit := do
  let s ← get
  if s.cursor.column = 0 then
    if c == '%' then failure
    if startsWithMark dialect '-' (c :: rest) then
      return ← scanDocumentMark dialect .documentStart
    if startsWithMark dialect '.' (c :: rest) then
      return ← scanDocumentMark dialect .documentEnd
  if dialect = .settings && (s.cursor.column : Int) < s.indent then failure
  match c with
  | '[' => scanFlowStart dialect .sequence .flowSequenceStart
  | '\x7b' => scanFlowStart dialect .mapping .flowMappingStart
  | ']' => scanFlowEnd dialect .flowSequenceEnd
  | '\x7d' => scanFlowEnd dialect .flowMappingEnd
  | ',' => scanFlowEntry dialect
  | '\'' | '"' => scanQuoted dialect fuel c
  | c =>
    if c == '-' && endsToken dialect rest then scanBlockEntry dialect
    else if c == '?' && announcesKey dialect s rest then scanKey
    else if c == ':' && announcesValue dialect s rest then scanValue dialect
    else if startsPlain dialect s c rest then scanPlain dialect fuel
    else failure

/-- Ends the text as if a new line began. -/
def scanEnd : Scan Unit := do
  let s ← get
  if (s.possibleKey :: s.flows.map OpenFlow.outerKey).any fun key => key.any (·.required) then
    failure
  unindent (-1)

/-- Reads tokens up to the end of the text; `fuel` is more than the number of characters left. -/
def scanAll (dialect : Dialect) : Nat → Scan Unit
  | 0 => failure
  | fuel + 1 => do
    skipBlank dialect (fuel + 1)
    dropStaleKeys dialect
    unindent (← get).cursor.column
    match (← get).cursor.rest with
    | [] => scanEnd
    | c :: rest => do
      scanToken dialect (fuel + 1) c rest
      scanAll dialect fuel

end Scan

def tokens? (dialect : Dialect) (text : List Char) : Option (Array Token) := do
  let start : Scanner := ⟨.start text, #[], -1, [], [], none, true, none⟩
  let ((), s) ← (Scan.scanAll dialect (text.length + 1)).run start
  return s.tokens

end DotQuery.Yaml

import DotQuery.Yaml.Basic
import DotQuery.Yaml.Token

/-!
Trees from the tokens of YAML text. There are no anchors, tags, directives or block scalars. A text
holds at most one document; where it holds none, or nothing is written in it, the tree is blank.
-/

namespace DotQuery.Yaml

/-- What is still to read: the tokens that follow, none at the end of the text. -/
abbrev Rest := List Token

def startsWithAny (tokens : List Token) (rest : Rest) : Bool :=
  rest.head?.any tokens.contains

/-- What may stand where a value of a block mapping is missing. -/
def behindMissing : List Token :=
  [.key, .value, .blockEnd]

/-- Whether a node of a block collection may be a sequence that is not indented. -/
inductive Position where
  | flow
  | block
  | blockMember
deriving DecidableEq

mutual

/-- A node with at most `depth` collections inside one another. -/
def takeNode? (position : Position) (depth : Nat) : Nat → Rest → Option (Yaml × Rest)
  | 0, _ => none
  | fuel + 1, tokens =>
    match tokens with
    | [] => none
    | .scalar quoted text :: rest => some (.scalar quoted text, rest)
    | token :: rest =>
      if depth = 0 then none
      else match token with
        | .flowSequenceStart => takeFlowItems? (depth - 1) fuel true [] rest
        | .flowMappingStart => takeFlowMembers? (depth - 1) fuel true [] rest
        | .blockEntry =>
          if position = .blockMember then takeItems? (depth - 1) fuel false [] tokens else none
        | .blockSequenceStart =>
          if position = .flow then none else takeItems? (depth - 1) fuel true [] rest
        | .blockMappingStart =>
          if position = .flow then none else takeMembers? (depth - 1) fuel [] rest
        | _ => none
termination_by structural fuel => fuel

/-- A node, or a blank one if one of `stops` comes first. -/
def takeOrBlank? (stops : List Token) (position : Position) (depth : Nat) :
    Nat → Rest → Option (Yaml × Rest)
  | 0, _ => none
  | fuel + 1, tokens =>
    if startsWithAny stops tokens then some (.blank, tokens)
    else takeNode? position depth fuel tokens
termination_by structural fuel => fuel

/-- The items of a block sequence behind those in `done`, which stand in reverse order. One that is
not indented ends with its last item. -/
def takeItems? (depth : Nat) : Nat → Bool → List Yaml → Rest → Option (Yaml × Rest)
  | 0, _, _, _ => none
  | fuel + 1, indented, done, tokens =>
    match tokens with
    | .blockEntry :: rest => do
      let stops := .blockEntry :: if indented then [.blockEnd] else behindMissing
      let (item, rest) ← takeOrBlank? stops .block depth fuel rest
      takeItems? depth fuel indented (item :: done) rest
    | .blockEnd :: rest =>
      some (.sequence done.reverse, if indented then rest else tokens)
    | _ => if indented then none else some (.sequence done.reverse, tokens)
termination_by structural fuel => fuel

def takeMembers? (depth : Nat) : Nat → List (Yaml × Yaml) → Rest → Option (Yaml × Rest)
  | 0, _, _ => none
  | fuel + 1, done, tokens =>
    match tokens with
    | .key :: rest => do
      let (key, rest) ← takeOrBlank? behindMissing .blockMember depth fuel rest
      match rest with
      | .value :: rest =>
        let (value, rest) ← takeOrBlank? behindMissing .blockMember depth fuel rest
        takeMembers? depth fuel ((key, value) :: done) rest
      | _ => takeMembers? depth fuel ((key, .blank) :: done) rest
    | .blockEnd :: rest => some (.mapping done.reverse, rest)
    | _ => none
termination_by structural fuel => fuel

/-- The value behind a key of a flow collection that ends with `closer`. -/
def takeFlowValue? (closer : Token) (depth : Nat) : Nat → Rest → Option (Yaml × Rest)
  | 0, _ => none
  | fuel + 1, tokens =>
    match tokens with
    | .value :: rest => takeOrBlank? [.flowEntry, closer] .flow depth fuel rest
    | _ => some (.blank, tokens)
termination_by structural fuel => fuel

/-- The items of a flow sequence, where a pair is a mapping of its own. -/
def takeFlowItems? (depth : Nat) : Nat → Bool → List Yaml → Rest → Option (Yaml × Rest)
  | 0, _, _, _ => none
  | fuel + 1, isFirst, done, tokens => do
    if startsWithAny [.flowSequenceEnd] tokens then
      return (.sequence done.reverse, tokens.drop 1)
    if !isFirst && !startsWithAny [.flowEntry] tokens then none
    match if isFirst then tokens else tokens.drop 1 with
    | .flowSequenceEnd :: rest => return (.sequence done.reverse, rest)
    | .key :: rest =>
      if depth = 0 then none
      let stops := [.value, .flowEntry, .flowSequenceEnd]
      let (key, rest) ← takeOrBlank? stops .flow (depth - 1) fuel rest
      let rest := if startsWithAny stops rest && key.isBlank then rest.drop 1 else rest
      let (value, rest) ← takeFlowValue? .flowSequenceEnd (depth - 1) fuel rest
      takeFlowItems? depth fuel false (.mapping [(key, value)] :: done) rest
    | tokens =>
      let (item, rest) ← takeNode? .flow depth fuel tokens
      takeFlowItems? depth fuel false (item :: done) rest
termination_by structural fuel => fuel

/-- The members of a flow mapping, where the value of a key may be missing. -/
def takeFlowMembers? (depth : Nat) :
    Nat → Bool → List (Yaml × Yaml) → Rest → Option (Yaml × Rest)
  | 0, _, _, _ => none
  | fuel + 1, isFirst, done, tokens => do
    if startsWithAny [.flowMappingEnd] tokens then
      return (.mapping done.reverse, tokens.drop 1)
    if !isFirst && !startsWithAny [.flowEntry] tokens then none
    match if isFirst then tokens else tokens.drop 1 with
    | .flowMappingEnd :: rest => return (.mapping done.reverse, rest)
    | .key :: rest =>
      let (key, rest) ←
        takeOrBlank? [.value, .flowEntry, .flowMappingEnd] .flow depth fuel rest
      let (value, rest) ← takeFlowValue? .flowMappingEnd depth fuel rest
      takeFlowMembers? depth fuel false ((key, value) :: done) rest
    | tokens =>
      let (key, rest) ← takeNode? .flow depth fuel tokens
      takeFlowMembers? depth fuel false ((key, .blank) :: done) rest
termination_by structural fuel => fuel

end

/-! ### Documents -/

def isDocumentEnd (token : Token) : Bool :=
  token = .documentEnd

/-- The tree of the only document, and what follows it. -/
def takeDocument? (depth fuel : Nat) (tokens : Rest) : Option (Yaml × Rest) :=
  match tokens with
  | [] => some (.blank, [])
  | .documentStart :: rest =>
    if rest.isEmpty || startsWithAny [.documentStart, .documentEnd] rest then some (.blank, rest)
    else takeNode? .block depth fuel rest
  | tokens => takeNode? .block depth fuel tokens

/-- How deep collections may be nested, in a text with `count` tokens. -/
def maxDepth (dialect : Dialect) (count : Nat) : Nat :=
  match dialect with
  | .document => 128
  | .settings => count

/-- The tree of a text that holds at most one document. In settings, marks of a document's end may
stand before it. -/
def read? (dialect : Dialect) (text : List Char) : Option Yaml := do
  let tokens := (← tokens? dialect text).toList
  let body := if dialect = .settings then tokens.dropWhile isDocumentEnd else tokens
  let depth := maxDepth dialect tokens.length
  let (tree, rest) ← takeDocument? depth (3 * tokens.length + 3) body
  if (rest.dropWhile isDocumentEnd).isEmpty then return tree else none

end DotQuery.Yaml

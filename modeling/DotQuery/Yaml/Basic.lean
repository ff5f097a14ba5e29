/-!
YAML documents as trees. A scalar keeps its text and whether it was quoted; what an unquoted text
stands for is for the reader of the tree to say.

They are read in two dialects, in which characters mean different things. Documents follow the older
rules, in which an unusual line break is a break like any other and a comment may follow a quoted
text directly. Settings follow the newer ones.
-/

namespace DotQuery

inductive Yaml where
  | scalar (quoted : Bool) (text : String)
  | sequence (items : List Yaml)
  | mapping (members : List (Yaml × Yaml))
deriving Inhabited

namespace Yaml

/-- The node that stands where nothing is written. -/
def blank : Yaml := .scalar false ""

def isBlank : Yaml → Bool
  | .scalar false "" => true
  | _ => false

inductive Dialect where
  | document
  | settings
deriving DecidableEq

def isSpace (c : Char) : Bool :=
  c == ' ' || c == '\t'

def nextLineMark : Char := Char.ofNat 0x85

def isBreak (dialect : Dialect) (c : Char) : Bool :=
  c == '\n' || c == '\r' ||
    (dialect = .document && (c == nextLineMark || c == '\u2028' || c == '\u2029'))

def isSpaceOrBreak (dialect : Dialect) (c : Char) : Bool :=
  isSpace c || isBreak dialect c

/-- Whether a token ends before `rest`. -/
def endsToken (dialect : Dialect) (rest : List Char) : Bool :=
  rest.head?.all (isSpaceOrBreak dialect)

/-- Whether nothing is left on the line. -/
def endsLine (dialect : Dialect) (rest : List Char) : Bool :=
  rest.head?.all (isBreak dialect)

def isFlowIndicator (c : Char) : Bool :=
  c == ',' || c == '[' || c == ']' || c == '\x7b' || c == '\x7d'

/-- What a line break stands for in a text: a line feed, except for the breaks that separate lines
and paragraphs and nothing else. -/
def breakText (c : Char) : Char :=
  if c == '\u2028' || c == '\u2029' then c else '\n'

def startsWithMark (dialect : Dialect) (mark : Char) (text : List Char) : Bool :=
  match text with
  | a :: b :: c :: rest => a == mark && b == mark && c == mark && endsToken dialect rest
  | _ => false

/-- Whether `text` starts with the mark of a document's start or end. -/
def startsWithDocumentMark (dialect : Dialect) (text : List Char) : Bool :=
  startsWithMark dialect '-' text || startsWithMark dialect '.' text

end Yaml

end DotQuery

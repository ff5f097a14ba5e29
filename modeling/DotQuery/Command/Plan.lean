import DotQuery.Command.Arguments
import DotQuery.Rules.Basic
import DotQuery.Rules.Settings
import DotQuery.Settings.Format
import DotQuery.Text.Graphic

/-!
What is answered for each document: the value of a lone query, or an object with a field for each
rule of a rules file and for each query. Everything about it that does not depend on a document is
checked before any document is read.
-/

namespace DotQuery

open Query

/-- Why the answer for a document failed. -/
inductive AnswerError where
  | query (error : QueryError)
  | field (error : FieldError)
deriving DecidableEq

namespace AnswerError

def chain : AnswerError → List String
  | query error => [error.message]
  | field error => error.chain

end AnswerError

namespace Command

/-- Why the command failed; positions count from one. -/
inductive CommandError where
  | unstartedThreads
  | nothingAsked
  | unknownFormat
  | unreadableRules (path : String)
  | invalidRules (error : RuleError)
  | unreadableInput (path : String)
  | invalidInput (error : DocumentError)
  | invalidReferenceTime (error : InvalidReferenceTime)
  | failedDocument (position : Nat) (error : AnswerError)
  | uncreatableOutput (path : String)
deriving DecidableEq

/-- The digits of a number in lower-case hexadecimal. -/
def hexText (n : Nat) : List Char :=
  Nat.toDigits 16 n

/-- A character of a quoted path. One that does not show by itself is written as its code. -/
def quoteCharacter (c : Char) : List Char :=
  match c with
  | '"' => ['\\', '"']
  | '\'' => ['\\', '\'']
  | '\\' => ['\\', '\\']
  | '\n' => ['\\', 'n']
  | '\r' => ['\\', 'r']
  | '\t' => ['\\', 't']
  | '\x00' => ['\\', '0']
  | c =>
    if Text.isGraphic c then [c]
    else ['\\', 'u', '\x7b'] ++ hexText c.toNat ++ ['\x7d']

/-- A path between quotes, with escapes for what would not show. -/
def quotePath (path : String) : String :=
  String.ofList ('"' :: (path.toList.flatMap quoteCharacter ++ ['"']))

/-- The path is a hyphen, which stands for standard input or output; slashes and dots that add
nothing may follow it. -/
def isStandardStream (path : String) : Bool :=
  match Text.fields '/' path.toList with
  | ['-'] :: rest => rest.all fun name => name = [] ∨ name = ['.']
  | _ => false

namespace CommandError

/-- The messages of an error, the outermost first. -/
def chain : CommandError → List String
  | unstartedThreads => ["CLI: Failed to initialize thread pool"]
  | nothingAsked => ["CLI: Provide at least one --query or a --rules file"]
  | unknownFormat => ["CLI: Could not detect input format from extension; use --format"]
  | unreadableRules path => ["Rules: Failed to load " ++ quotePath path]
  | invalidRules error => [error.message]
  | unreadableInput path =>
    [if isStandardStream path then "Input: Failed to read stdin"
      else "Input: Failed to read " ++ quotePath path]
  | invalidInput error => [error.message]
  | invalidReferenceTime error => [error.message]
  | failedDocument position error => ("Document " ++ toString position) :: error.chain
  | uncreatableOutput path => ["Output: Failed to create " ++ quotePath path]

/-- The text of a failure: the outermost message, and the causes below it, numbered if there are
several. -/
def report (error : CommandError) : String :=
  match error.chain with
  | [] => "Error"
  | [message] => "Error: " ++ message
  | [message, cause] => "Error: " ++ message ++ "\n\nCaused by:\n    " ++ cause
  | message :: causes =>
    let lines := causes.zipIdx.map fun (cause, i) => "\n    " ++ toString i ++ ": " ++ cause
    "Error: " ++ message ++ "\n\nCaused by:" ++ String.join lines

end CommandError

inductive Plan where
  | single (query : String)
  | fields (rules : RuleSet)
deriving DecidableEq

/-- The plan for a rules file, if there is one, and the queries that are given beside it. -/
def makePlan (config : Option RulesConfig) (queries : List String) : Except CommandError Plan :=
  let compile (rules : List Rule) := (RuleSet.compile rules).mapError CommandError.invalidRules
  match config, queries with
  | none, [] => .error .nothingAsked
  | none, [query] => do
    let _ ← compile [Rule.ofQuery query]
    return .single query
  | config, queries => do
    let rules := (config.map RulesConfig.rules).getD []
    return .fields (← compile (rules ++ queries.map Rule.ofQuery))

variable [Regex.Engine]

/-- The answer of a plan for one document. -/
def Plan.answer (plan : Plan) (ctx : Context) : Except (Failure AnswerError) Json :=
  match plan with
  | .single query => (ctx.evaluate query).mapError (Failure.map .query)
  | .fields rules => do
    let members ← (rules.evaluate ctx).mapError (Failure.map .field)
    return .obj members

/-! ### Formats -/

/-- The last component of a path that names something in its directory. -/
def fileName? (path : String) : Option (List Char) :=
  let components := (Text.fields '/' path.toList).filter fun name => name ≠ [] ∧ name ≠ ['.']
  match components.getLast? with
  | some ['.', '.'] => none
  | name => name

/-- What follows the last dot of a file name that does not begin with that dot. -/
def extension? (path : String) : Option String := do
  let name ← fileName? path
  let ending := (name.reverse.takeWhile (· != '.')).reverse
  if name.length ≤ ending.length + 1 then none else return String.ofList ending

/-- The format that is asked for, or that the name of the input shows; JSON on standard input. -/
def inputFormat (args : Arguments) : Except CommandError Format :=
  match args.format with
  | some format => .ok format
  | none =>
    if isStandardStream args.input then .ok .json
    else
      let extension := (extension? args.input).map fun text =>
        String.ofList (text.toList.map Char.toLower)
      match extension.bind Format.ofName? with
      | some format => .ok format
      | none => .error .unknownFormat

/-! ### Rules files -/

/-- A path without the slashes and dots behind it that add nothing; none if no name is left that an
ending may be added to. -/
def nameOfFile? (path : String) : Option String :=
  let parts := (Text.fields '/' path.toList).reverse.dropWhile fun part =>
    part = [] ∨ part = ['.']
  match parts with
  | [] | ['.', '.'] :: _ => none
  | _ => some (String.ofList (List.intercalate ['/'] parts.reverse))

/-- The paths where a rules file is looked for. -/
def rulesPaths (path : String) : List String :=
  match nameOfFile? path with
  | some name => path :: SettingsFormat.endings.map fun ending => name ++ "." ++ ending
  | none => [path]

/-- The text of a file behind the mark that may stand before it. -/
def withoutByteOrderMark (text : String) : String :=
  match text.toList with
  | '\ufeff' :: rest => String.ofList rest
  | _ => text

/-- Reads a rules file whose ending says how it is written. -/
def readRules? (path content : String) : Option RulesConfig := do
  let format ← (extension? path).bind SettingsFormat.ofEnding?
  RulesConfig.ofFile? (← format.read? (withoutByteOrderMark content))

end Command

end DotQuery

import DotQuery.Command.Arguments

/-!
What the command tells of itself: its version, and its usage with a line for each parameter.
-/

namespace DotQuery

namespace Command

def commandName : String := "oneliner"

/-- The variable of the environment that may give a reference time. -/
def referenceTimeVariable : String := "ONELINER_NOW"

def usage : String :=
  "Usage: " ++ commandName ++ " [OPTIONS] --input <INPUT>"

namespace Parameter

def description : Parameter → String
  | input => "Input document (.json, .jsonl, .yaml); `-` reads stdin"
  | query => "Query to evaluate (repeatable)"
  | rules => "Rules file (YAML) of named queries"
  | output => "Output file; `-` writes to stdout"
  | format => "Input format (auto-detected if omitted)"
  | now => "Reference time for age() without a reference path (RFC 3339)"
  | threads => "Number of threads (default: all cores)"
  | pretty => "Pretty-print JSON output (single-document input only)"
  | verbose => "Enable verbose output"
  | notice .help => "Print help"
  | notice .version => "Print version"

/-- What stands for a value that is not given, and which values there may be. -/
def remark (environment : Option String) : Parameter → String
  | output => " [default: -]"
  | format =>
    " [possible values: " ++
      String.intercalate ", " ([Format.json, .jsonLines, .yaml].map Format.label) ++ "]"
  | now => " [env: " ++ referenceTimeVariable ++ "=" ++ environment.getD "" ++ "]"
  | _ => ""

/-- The names of a parameter and of its value. -/
def signature (parameter : Parameter) : String :=
  let short := match parameter.shortName? with
    | some name => String.ofList ['-', name, ',', ' ']
    | none => "    "
  let value := match parameter.placeholder? with
    | some name => " <" ++ name ++ ">"
    | none => ""
  short ++ "--" ++ parameter.longName ++ value

/-- The column behind the longest signature and two spaces. -/
def helpColumn : Nat :=
  all.foldl (fun column parameter => max column parameter.signature.length) 0 + 2

def helpLine (environment : Option String) (parameter : Parameter) : String :=
  let spaces := List.replicate (helpColumn - parameter.signature.length) ' '
  "  " ++ parameter.signature ++ String.ofList spaces ++ parameter.description ++
    parameter.remark environment ++ "\n"

end Parameter

/-- The text of a notice, where the environment may give a reference time. -/
def Notice.text (environment : Option String) : Notice → String
  | .version => commandName ++ " 0.1.0\n"
  | .help =>
    "Dot-delimited query micro-DSL for extracting and aggregating fields from JSON documents\n\n" ++
      usage ++ "\n\nOptions:\n" ++
      String.join (Parameter.all.map (Parameter.helpLine environment))

end Command

end DotQuery

import DotQuery.Json.Basic
import DotQuery.Text.Blank
import DotQuery.Text.Cut
import DotQuery.Yaml.Value

/-!
Documents in the formats that they come in: one JSON or YAML document, or JSON Lines with one
document on each line that is not blank. Lines are counted from one, blank ones too. The reader of
JSON texts is given.
-/

namespace DotQuery

inductive Format where
  | json
  | jsonLines
  | yaml
deriving DecidableEq

namespace Format

def label : Format → String
  | json => "json"
  | jsonLines => "jsonl"
  | yaml => "yaml"

/-- A format by one of its names. -/
def ofName? : String → Option Format
  | "json" => some json
  | "jsonl" | "ndjson" => some jsonLines
  | "yaml" | "yml" => some yaml
  | _ => none

end Format

inductive DocumentError where
  | invalidJson
  | invalidYaml
  | invalidLine (number : Nat)
deriving DecidableEq

namespace DocumentError

def message : DocumentError → String
  | invalidJson => "Input: Invalid JSON document"
  | invalidYaml => "Input: Invalid YAML document"
  | invalidLine number => "Input: Invalid JSON on line " ++ toString number

end DocumentError

namespace Document

/-- The documents on lines that are counted from `number`. -/
def readLines (read : String → Option Json) (number : Nat) :
    List (List Char) → Except DocumentError (List Json)
  | [] => .ok []
  | line :: rest =>
    if Text.isAllBlank line then readLines read (number + 1) rest
    else match read (String.ofList line) with
      | none => .error (.invalidLine number)
      | some document => do
        let documents ← readLines read (number + 1) rest
        return document :: documents

def readAll (read : String → Option Json) (format : Format) (text : String) :
    Except DocumentError (List Json) :=
  match format with
  | .json =>
    match read text with
    | some document => .ok [document]
    | none => .error .invalidJson
  | .yaml =>
    match Yaml.readJson? text with
    | some document => .ok [document]
    | none => .error .invalidYaml
  | .jsonLines => readLines read 1 (Text.lines text.toList)

end Document

end DotQuery

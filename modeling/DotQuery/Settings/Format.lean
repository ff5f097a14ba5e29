import DotQuery.Settings.Ini
import DotQuery.Settings.Json
import DotQuery.Settings.Json5
import DotQuery.Settings.Ron
import DotQuery.Settings.Toml.Reader
import DotQuery.Settings.Yaml

/-!
The formats of settings files, each known by the ending of a file's name.
-/

namespace DotQuery

inductive SettingsFormat where
  | toml
  | json
  | yaml
  | ini
  | ron
  | json5
deriving DecidableEq

namespace SettingsFormat

def ofEnding? : String → Option SettingsFormat
  | "toml" => some toml
  | "json" => some json
  | "yaml" | "yml" => some yaml
  | "ini" => some ini
  | "ron" => some ron
  | "json5" => some json5
  | _ => none

/-- The endings in the order in which files are looked for. -/
def endings : List String :=
  ["toml", "json", "yaml", "yml", "ini", "ron", "json5"]

/-- The settings of a text. -/
def read? : SettingsFormat → String → Option Setting
  | toml => Setting.readToml?
  | json => Setting.readJson?
  | yaml => Setting.readYaml?
  | ini => Setting.readIni?
  | ron => Setting.readRon?
  | json5 => Setting.readJson5?

end SettingsFormat

end DotQuery

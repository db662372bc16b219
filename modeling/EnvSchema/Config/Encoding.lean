import EnvSchema.Config.Settings
import EnvSchema.Data.Toml.Writer

/-!
# The text of settings

All settings of a project are written, those that have their defaults as well.

* `encodeProject` — the text of the settings of a project.
-/

namespace EnvSchema.Config

open Data.Toml (Setting)

/-- The name of a source of variables. -/
def sourceName : VariableSource → String
  | .process => "process"
  | .files => "dotenv"

/-- The settings of the schema. The file is left out if it is not named. -/
def schemaEntries (s : SchemaSettings) : List (String × Setting) :=
  [("env_dir", .text s.envFolder)] ++ (s.file.map fun f => ("schema_file", .text f)).toList ++
    [("server_schema", .text s.object), ("library", .text s.library), ("namespace", .text s.space)]

/-- The settings of the environment. -/
def environmentEntries (s : EnvironmentSettings) : List (String × Setting) :=
  [("source", .text (sourceName s.source)), ("ignore", .texts s.ignore)]

/-- The settings of the search. -/
def scanEntries (s : ScanSettings) : List (String × Setting) :=
  [("source_dir", .text s.folder), ("exclude", .texts s.exclude)]

/-- **The text of the settings of a project.** -/
def encodeProject (s : ProjectSettings) : String :=
  Data.Toml.documentText
    [ ("schema", schemaEntries s.schema), ("env", environmentEntries s.environment)
    , ("scan", scanEntries s.scan) ]

end EnvSchema.Config

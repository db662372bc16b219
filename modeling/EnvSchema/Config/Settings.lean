/-!
# Settings

What a project and its user can choose. Every choice has a default.

* `SchemaSettings` — where the schema is and what it is made with;
* `EnvironmentSettings` — which variables the project runs with;
* `ScanSettings` — which files are searched;
* `ProjectSettings`, `UserSettings` — all that a project chooses, and all that its user does.
-/

namespace EnvSchema

/-- **Where the schema is and what it is made with.** -/
structure SchemaSettings where
  /-- The folder of the env modules, within the project. -/
  envFolder : String := "src/env"
  /-- The file in that folder that holds the schema, if the project names it. -/
  file : Option String := none
  /-- The variable that the object with the server's fields is bound to. -/
  object : String := "serverSchema"
  /-- The module that the schema has to import. -/
  library : String := "zod"
  /-- The name by which the schema calls that module. -/
  space : String := "z"
  deriving Repr, DecidableEq, Inhabited

/-- Where the names of the variables come from that the project runs with. -/
inductive VariableSource where
  /-- The environment of the process. -/
  | process
  /-- The files in the project that set variables. -/
  | files
  deriving Repr, DecidableEq, Inhabited

/-- **Which variables the project runs with.** -/
structure EnvironmentSettings where
  source : VariableSource := .process
  /-- Names that are left out. -/
  ignore : List String := []
  deriving Repr, DecidableEq, Inhabited

/-- **Which files are searched.** -/
structure ScanSettings where
  /-- The folder of the sources, within the project. -/
  folder : String := "src"
  /-- Names of folders that are passed over. -/
  exclude : List String := ["node_modules", ".next"]
  deriving Repr, DecidableEq, Inhabited

/-- **All that a project chooses.** -/
structure ProjectSettings where
  schema : SchemaSettings := {}
  environment : EnvironmentSettings := {}
  scan : ScanSettings := {}
  deriving Repr, DecidableEq, Inhabited

/-- **All that the user chooses for every project.** -/
structure UserSettings where
  /-- Whether progress is drawn. -/
  spinners : Bool := true
  /-- The endings of the names of source files. -/
  extensions : List String := ["js", "jsx", "ts", "tsx", "mjs", "cjs"]
  deriving Repr, DecidableEq, Inhabited

end EnvSchema

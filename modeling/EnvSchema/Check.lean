import EnvSchema.Project.Environment
import EnvSchema.Project.SchemaFile
import EnvSchema.Project.Sources
import EnvSchema.Project.Root
import EnvSchema.Remediation

/-!
# The check

Every variable that a project uses has to be in its schema: those that it runs with, and those that
its sources read. What is missing is reported, or offered to the user and added.

* `Report` — what a check found and what it added, and `Report.unresolved`, what is left;
* `checkEnvironment`, `checkSources` — the two passes of a check;
* `check` — a whole check, from the choice of the schema on.
-/

namespace EnvSchema

/-- **What a check found and what it added.** -/
structure Report where
  /-- Variables that the project runs with and the schema does not declare. -/
  missingInEnvironment : Names := {}
  /-- Variables that the sources read and the schema does not declare. -/
  missingInSources : Names := {}
  /-- What was added, in the order in which it was. -/
  added : List String := []

/-- **What is left undeclared.** -/
def Report.unresolved (r : Report) : Names :=
  .ofList ((r.missingInEnvironment.toList ++ r.missingInSources.toList).filter
    fun n => n ∉ r.added)

/-- **Whether a check only reports** or offers what is missing as well. -/
inductive Mode where
  | interactive
  | reportOnly
  deriving Repr, DecidableEq, Inhabited

/-- **What a check works with.** -/
structure CheckContext where
  layout : Project.Layout
  project : ProjectSettings := {}
  user : UserSettings := {}
  mode : Mode := .interactive
  prompter : Prompter
  /-- The names of the variables of the process. -/
  process : List String := []

/-! ### What is printed -/

/-- A line that says that something is in order. -/
def passed (text : String) : String := Text.green "✔" ++ " " ++ text

/-- A line that says that something is amiss. -/
def missed (text : String) : String := Text.red "✖" ++ " " ++ text

/-- A line below a heading. -/
def indented (line : String) : String := "  " ++ line

/-- What is said of a variable that the project runs with. -/
def environmentLine (declared : Names) (name : String) : String :=
  if name ∈ declared then
    indented (passed ("Environment variable $" ++ name ++ " is defined in the schema"))
  else indented (missed ("Environment variable $" ++ name ++ " is not defined in the schema"))

/-- What is said of a variable that the sources read. -/
def sourceLine (name : String) : String :=
  indented (missed ("$" ++ name ++ " is used in the code but not in the schema"))

/-- Prints lines. -/
def sayAll : List String → Run Unit
  | [] => return
  | l :: ls => do
    Run.say l
    sayAll ls

/-! ### The check -/

/-- Offers what is missing, unless the check only reports. -/
def CheckContext.fix (c : CheckContext) (missing : Names) : Edit (List String) :=
  match c.mode with
  | .interactive => remediate c.prompter c.project.schema missing
  | .reportOnly => return []

/-- **The first pass**: what the project runs with and the schema lacks, and what was added of
it. -/
def checkEnvironment (c : CheckContext) : Edit (Names × List String) := do
  let names ← Run.look fun t =>
    Project.environment t c.layout.root c.project.environment c.process
  let declared := (← Edit.schema).declared
  sayAll (names.toList.map (environmentLine declared))
  let missing := names.without declared
  if missing.isEmpty then
    Run.say (passed "All environment variables are present in your schema")
    return ({}, [])
  Run.say (missed "Some environment variables are missing")
  return (missing, ← c.fix missing)

/-- **The second pass**: what the sources read and the schema lacks, and what was added of it. -/
def checkSources (c : CheckContext) : Edit (Names × List String) := do
  let declared := (← Edit.schema).declared
  let missing ← Run.look fun t => do
    let files ← Project.sourceFiles t c.layout.sources c.user.extensions c.project.scan.exclude
    Project.undeclaredInAll t declared files
  if missing.isEmpty then
    Run.say (passed "Finished going through the code")
    return ({}, [])
  sayAll (missing.toList.map sourceLine)
  Run.say (missed "Some environment variables are missing in your code!")
  return (missing, ← c.fix missing)

/-- Both passes over a schema. -/
def checkBoth (c : CheckContext) : Edit Report := do
  let (environment, addedFirst) ← checkEnvironment c
  let (sources, addedThen) ← checkSources c
  return ⟨environment, sources, addedFirst ++ addedThen⟩

/-- The schema that a check works on. -/
def CheckContext.schema (c : CheckContext) (t : Files.Tree) : Except Failure Schema := do
  let path ← Project.schemaFile t c.layout.env c.project.schema
  let s ← Schema.load t path
  s.requireLibrary c.project.schema.library
  return s

/-- **A whole check.** -/
def check (c : CheckContext) : Run Report := do
  let s ← Run.look c.schema
  Edit.within s (checkBoth c)

end EnvSchema

import EnvSchema.Config.Settings
import EnvSchema.Failure

/-!
# Where a project is

A project is a folder with a manifest in it. It is found from any folder within it.

* `locate` — the project that a folder lies in;
* `Layout` — the folders of a project that matter.
-/

namespace EnvSchema.Project

open Files (Tree join ancestors)

/-- The name of the manifest. -/
def manifestName : String := "package.json"

/-- Whether a folder is a project. -/
def isProject (t : Tree) (folder : String) : Bool := t.isFile (join folder manifestName)

/-- **The innermost project that a folder is or lies in.** -/
def locate (t : Tree) (start : String) : Except Failure String :=
  match (ancestors start).find? (isProject t) with
  | some root => .ok root
  | none => .error (.noProject start)

/-- **The folders of a project that matter.** -/
structure Layout where
  root : String
  sources : String
  /-- The folder of the env modules; it exists. -/
  env : String
  deriving Repr, DecidableEq

/-- **The layout that the settings of a project ask for.** -/
def layout (t : Tree) (root : String) (schema : SchemaSettings) (scan : ScanSettings) :
    Except Failure Layout :=
  let env := join root schema.envFolder
  if t.isFolder env then .ok ⟨root, join root scan.folder, env⟩ else .error (.noEnvFolder env)

end EnvSchema.Project

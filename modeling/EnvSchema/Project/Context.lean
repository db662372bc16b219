import EnvSchema.Project.Manifest
import EnvSchema.Project.Root

/-!
# What kind of project it is

* `PackageManager.of` — who installs the packages of a project, by the file that it leaves;
* `Framework.of?` — what a project is built on, by the packages that it depends on;
* `NodeProject.read` — both, with what else the manifest says;
* `Context.read` — the name of a project as well.
-/

namespace EnvSchema.Project

open Files (Tree join)

/-- **Who installs the packages of a project.** -/
inductive PackageManager where
  | npm
  | yarn
  | pnpm
  | bun
  deriving Repr, DecidableEq, Inhabited

namespace PackageManager

/-- How a package manager is shown. -/
def name : PackageManager → String
  | npm => "npm"
  | yarn => "yarn"
  | pnpm => "pnpm"
  | bun => "bun"

/-- The files that package managers leave, the first one found deciding. -/
def lockFiles : List (String × PackageManager) :=
  [("bun.lockb", bun), ("pnpm-lock.yaml", pnpm), ("yarn.lock", yarn)]

/-- **The package manager of the project in a folder.** -/
def of (t : Tree) (root : String) : PackageManager :=
  match lockFiles.find? fun f => t.exists? (join root f.1) with
  | some f => f.2
  | none => npm

end PackageManager

/-- **What a project is built on.** -/
inductive Framework where
  | next
  | remix
  | vite
  deriving Repr, DecidableEq, Inhabited

namespace Framework

/-- How a framework is shown. -/
def name : Framework → String
  | next => "next"
  | remix => "remix"
  | vite => "vite"

/-- The packages that come with a framework, the first one found deciding. -/
def packages : List (String × Framework) :=
  [("next", next), ("@remix-run/react", remix), ("vite", vite)]

/-- **The framework of a project**, if it depends on one that is known. -/
def of? (m : Manifest) : Option Framework :=
  (packages.find? fun p => m.dependsOn p.1).map (·.2)

end Framework

/-- **What is known of a project with a manifest.** -/
structure NodeProject where
  name : Option String
  packageManager : PackageManager
  framework : Option Framework
  /-- Whether the project depends on the library of its schema. -/
  usesZod : Bool
  deriving Repr, DecidableEq

/-- **What is known of the project in a folder**, if there is a manifest. -/
def NodeProject.read (t : Tree) (root : String) : Except Failure (Option NodeProject) :=
  let path := join root manifestName
  if !t.exists? path then .ok none
  else do
    let source ← Files.orFail (t.readText path)
    let m ← (Manifest.parse source).mapError (Failure.manifest path)
    return some ⟨m.name, .of t root, Framework.of? m, m.dependsOn "zod"⟩

/-- How a kind of project is shown. -/
def NodeProject.details (p : NodeProject) : String :=
  match p.framework with
  | some f => "(" ++ f.name ++ ", " ++ p.packageManager.name ++ ")"
  | none => "(" ++ p.packageManager.name ++ ")"

/-- **A project, with its name and what is known of it.** -/
structure Context where
  root : String
  name : String
  node : Option NodeProject
  deriving Repr, DecidableEq

/-- **What a project is.** One whose manifest has no name goes by that of its folder. -/
def Context.read (t : Tree) (root : String) : Except Failure Context := do
  let node ← NodeProject.read t root
  let name := (node.bind (·.name)).getD ((Files.fileName? root).getD "project")
  return ⟨root, name, node⟩

end EnvSchema.Project

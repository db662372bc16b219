import EnvSchema.Check
import EnvSchema.CommandLine.Help
import EnvSchema.CommandLine.Reader
import EnvSchema.Config.File
import EnvSchema.Project.Context

/-!
# The whole program

What the program does is a function of its arguments, its environment, the files and its user's
answers.

* `World` — all that the program is started with;
* `Outcome` — all that comes of it;
* `work` — what is done once the arguments have been read;
* `run` — the program.
-/

namespace EnvSchema

open CommandLine (Request)
open Files (Tree join)

/-- **All that the program is started with.** -/
structure World where
  tree : Tree
  /-- The folder that paths start from. -/
  folder : String
  /-- The environment: variables with their values. -/
  environment : List (List UInt8 × String)
  prompter : Prompter

namespace World

/-- The value of a variable. -/
def valueOf (w : World) (name : String) : Option String :=
  (w.environment.find? fun v => v.1 == name.toUTF8.toList).map (·.2)

/-- The user's folder of some kind: the one that a variable names, or else one in the home
folder. -/
def userFolder (w : World) (name inHome : String) : Option String :=
  match (w.valueOf name).filter Files.isAbsolute with
  | some path => some path
  | none => ((w.valueOf "HOME").filter (· != "")).map fun home => join home inHome

/-- The folder for logs. -/
def logFolder (w : World) : String :=
  join (join ((w.userFolder "XDG_CACHE_HOME" ".cache").getD ".") "envcheck") "logs"

/-- The file with the settings of the user, unless another one is named. -/
def settingsFile (w : World) : Option String :=
  (w.userFolder "XDG_CONFIG_HOME" ".config").map fun path => join (join path "envcheck") "config.toml"

end World

/-- **All that comes of the program.** -/
structure Outcome where
  /-- Zero if all is well, one if not, two if the arguments make no sense. -/
  code : Nat
  output : String := ""
  errors : String := ""
  tree : Tree
  /-- What the user was asked. -/
  asked : List Question := []

/-! ### Work -/

/-- The folder at a path, without anything on the way that leads back. -/
def startFolder (t : Tree) (folder : String) (path : Option String) : Except Failure String := do
  let way ← match path with
    | some p => Files.orFailAt .start p (t.way (if p.isEmpty then p else join folder p))
    | none => Files.orFail (t.way folder)
  return "/" ++ "/".intercalate way

/-- The settings of the user: those in the file that is named, or in the usual one if it is
there. -/
def userSettings (w : World) (named : Option String) (t : Tree) : Except Failure UserSettings :=
  match named with
  | some path => Config.loadUser t (join w.folder path)
  | none =>
    match w.settingsFile.filter t.exists? with
    | some path => Config.loadUser t path
    | none => .ok {}

/-- The line that a run opens with. -/
def banner (context : Project.Context) : String :=
  let details := (context.node.map fun n => " " ++ Text.dim n.details).getD ""
  "\n" ++ Text.bold "envcheck" ++ " " ++ Text.cyan context.name ++ details ++ "\n"

/-- What is printed at the end of a run, and how it ends. Only a run that offers nothing fails
because of what is missing. -/
def close (mode : Mode) (r : Report) : Run Nat := do
  if !r.added.isEmpty then Run.say ("\nAdded to the schema: " ++ ", ".intercalate r.added)
  if mode = .reportOnly && !r.unresolved.isEmpty then
    Run.say ("\nMissing from the schema: " ++ ", ".intercalate r.unresolved.toList)
    return 1
  else return 0

/-- A check of the project in a folder, with all that is printed. -/
def checkProject (w : World) (config : Option String) (mode : Mode) (root : String) : Run Nat := do
  let user ← Run.look (userSettings w config)
  let project := (← Run.look fun t => Config.loadProject t root).getD {}
  let context ← Run.look fun t => Project.Context.read t root
  Run.say (banner context)
  if context.node.any fun n => !n.usesZod then
    Run.say (Text.yellow "zod is not listed in package.json dependencies")
  let layout ← Run.look fun t => Project.layout t root project.schema project.scan
  let process := Project.processNames (w.environment.map (·.1))
  close mode (← check { layout, project, user, mode, prompter := w.prompter, process })

/-- **What is done once the arguments have been read**, and how it ends. -/
def work (w : World) (r : Request) : Run Nat := do
  let start ← Run.look fun t => startFolder t w.folder r.path
  let root ← Run.look fun t => Project.locate t start
  match r.command with
  | .init =>
    Config.setUp root r.force
    return 0
  | .scan => checkProject w r.config .reportOnly root
  | .check | .help => checkProject w r.config .interactive root

/-! ### The program -/

/-- How a failure is shown. -/
def failureLine (f : Failure) : String := Text.bold (Text.red "error:") ++ " " ++ f.message ++ "\n"

/-- What is said where there can be no logs. -/
def noLogsLine (fault : Files.Fault) : String := "Failed to set up logging: " ++ fault.message ++ "\n"

/-- **The program.** -/
def run (w : World) (arguments : List String) : Outcome :=
  let config := w.valueOf "ENVCHECK_CONFIG"
  match CommandLine.read config arguments with
  | .error (.fault f) => { code := 2, errors := f.message, tree := w.tree }
  | .error (.help s) => { code := 0, output := CommandLine.help s (config.getD ""), tree := w.tree }
  | .error (.version s) => { code := 0, output := CommandLine.version s ++ "\n", tree := w.tree }
  | .ok r =>
    let (tree, errors) := match w.tree.makeFolders (join w.folder w.logFolder) with
      | .ok t => (t, "")
      | .error f => (w.tree, noLogsLine f)
    match work w r { tree } with
    | .ok code s => ⟨code, s.printed, errors, s.tree, s.asked⟩
    | .error f s => ⟨1, s.printed, errors ++ failureLine f, s.tree, s.asked⟩

end EnvSchema

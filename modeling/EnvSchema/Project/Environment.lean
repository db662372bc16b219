import EnvSchema.Config.Settings
import EnvSchema.Failure
import EnvSchema.Names
import EnvSchema.Text.Blank

/-!
# The variables that a project runs with

Only their names matter. They come from the environment of the process, or from files in the project
with a variable on each line.

* `setBy?` — the variable that a line sets;
* `fileVariables` — those that the files in a project set;
* `environment` — the names that the settings ask for.
-/

namespace EnvSchema.Project

open Files (Tree join)

/-- The names of the files that set variables. -/
def variableFiles : List String := [".env", ".env.local", ".env.development", ".env.example"]

/-- The names of those variables of a process whose names are texts. -/
def processNames (names : List (List UInt8)) : List String :=
  names.filterMap fun n => String.fromUTF8? ⟨n.toArray⟩

/-- **The variable that a line sets**: what stands before its first equals sign, without blanks
around it. A line may start with a word that exports the variable; a line that starts with a hash is
a comment. -/
def setBy? (line : List Char) : Option String :=
  let line := Text.trim line
  if line.head? == some '#' then none
  else
    let word := "export ".toList
    let line := if word.isPrefixOf line then line.drop word.length else line
    if line.contains '=' then
      let name := Text.trim (line.takeWhile (· != '='))
      if name.isEmpty then none else some (String.ofList name)
    else none

/-- The variables that the lines of a text set. -/
def setIn (text : String) : List String := (Text.lines text.toList).filterMap setBy?

/-- The variables that the file at a path sets. It need not be there. -/
def variablesOf (t : Tree) (path : String) : Except Failure (List String) :=
  if t.exists? path then do return setIn (← Files.orFail (t.readText path)) else .ok []

/-- **The variables that the files in a project set.** -/
def fileVariables (t : Tree) (root : String) : Except Failure (List String) := do
  let found ← (variableFiles.map (join root)).mapM (variablesOf t)
  return found.flatten

/-- **The names of the variables that a project runs with**, where the process has the given
ones. -/
def environment (t : Tree) (root : String) (settings : EnvironmentSettings) (process : List String) :
    Except Failure Names := do
  let names ← match settings.source with
    | .process => .ok process
    | .files => fileVariables t root
  return (Names.ofList names).without (.ofList settings.ignore)

end EnvSchema.Project

import EnvSchema.Project.Sources

/-!
# Searching files at the same time

Every file is searched by a task of its own. The tasks take turns in any order: in one turn a task
reads its file, and in another one it searches what it has read. When all of them have ended, what
came of them is gathered in the order of the files.

* `Task` — the search of one file, and `Task.turn`, a turn of it;
* `Pool` — the tasks of some files, and `Pool.after`, the tasks after some turns;
* `Pool.answer?` — what is found in all files, once that is known.
-/

namespace EnvSchema.Project

open Files (Tree)

/-- **How far the search of a file has come.** -/
inductive Stage where
  /-- It has not started. -/
  | waiting
  /-- The file has been read, and is still to be searched. -/
  | opened (dialect : Script.Dialect) (source : String)
  /-- It is over, with what came of it. -/
  | ended (found : Except Failure (Option String))

/-- **The search of one file.** -/
structure Task where
  path : String
  stage : Stage := .waiting

namespace Task

/-- What came of a task, if it is over. -/
def found? (task : Task) : Option (Except Failure (Option String)) :=
  match task.stage with
  | .ended found => some found
  | _ => none

/-- What is found in the text of a script. -/
def search (path : String) (declared : Names) (dialect : Script.Dialect) (source : String) :
    Except Failure (Option String) := do
  let m ← (Script.Module.parse dialect source).mapError (Failure.script path)
  return m.firstUndeclared declared

/-- **A turn of a task.** A file that is no script is not read, and a task that is over has nothing
to do. -/
def turn (t : Tree) (declared : Names) (task : Task) : Task :=
  match task.stage with
  | .waiting =>
    match (Files.extension? task.path).bind Script.Dialect.ofExtension? with
    | none => { task with stage := .ended (.ok none) }
    | some dialect =>
      match Files.orFailAt .read task.path (t.readText task.path) with
      | .error f => { task with stage := .ended (.error f) }
      | .ok source => { task with stage := .opened dialect source }
  | .opened dialect source => { task with stage := .ended (search task.path declared dialect source) }
  | .ended _ => task

end Task

/-- **The tasks of some files**, in the order of the files. -/
abbrev Pool := List Task

namespace Pool

/-- The tasks of some files before their first turn. -/
def start (paths : List String) : Pool := paths.map fun path => { path := path }

/-- **The tasks after some turns.** A turn is told by the number of the task that has it. -/
def after (t : Tree) (declared : Names) (pool : Pool) (turns : List Nat) : Pool :=
  turns.foldl (fun pool i => pool.modify i (Task.turn t declared)) pool

/-- What came of the searches of some files, together: the first one of them that failed counts. -/
def gathered (found : List (Except Failure (Option String))) : Except Failure Names := do
  return .ofList ((← found.mapM id).filterMap id)

/-- **What is found in all files**, once all tasks are over. -/
def answer? (pool : Pool) : Option (Except Failure Names) := (pool.mapM Task.found?).map gathered

end Pool

end EnvSchema.Project

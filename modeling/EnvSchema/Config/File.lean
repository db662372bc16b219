import EnvSchema.Config.Decoding
import EnvSchema.Config.Encoding
import EnvSchema.Session

/-!
# Files with settings

A project may keep its settings in a file in its folder, and a user may have a file of their own.

* `loadProject`, `loadUser` — the settings in a file;
* `saveProject` — writes the settings of a project;
* `setUp` — writes the defaults, unless there are settings that must not be lost.
-/

namespace EnvSchema.Config

open Files (Tree join)

/-- The name of the file with the settings of a project. -/
def fileName : String := ".envcheck.toml"

/-- **The settings that a project keeps in its folder**, if it does. -/
def loadProject (t : Tree) (folder : String) : Except Failure (Option ProjectSettings) :=
  let path := join folder fileName
  if t.exists? path then do
    let source ← Files.orFail (t.readText path)
    return some (← (decodeProject source).mapError (Failure.settings source))
  else .ok none

/-- **The settings of a user in a file.** -/
def loadUser (t : Tree) (path : String) : Except Failure UserSettings := do
  let source ← Files.orFail (t.readText path)
  (decodeUser source).mapError (Failure.settings source)

/-- **A tree in which a project keeps settings in its folder.** -/
def saveProject (s : ProjectSettings) (folder : String) (t : Tree) : Except Failure Tree :=
  Files.orFail (t.writeText (join folder fileName) (encodeProject s))

/-- **Gives a project the default settings.** Settings that it has are written over only if `force`
says so. -/
def setUp (folder : String) (force : Bool) : Run Unit := do
  let isThere := (← get).tree.exists? (join folder fileName)
  if isThere && !force then throw .settingsExist
  Run.change (saveProject {} folder)
  Run.say ("Created " ++ fileName)

end EnvSchema.Config

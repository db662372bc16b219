import EnvSchema.Data.Toml.Fault
import EnvSchema.Files.Tree
import EnvSchema.Glob.Pattern
import EnvSchema.Script.Module

/-!
# Failures

Everything that can end a run, by its cause.

* `Refusal` — why a question was left without an answer;
* `Attempt` — what was tried with a file;
* `Failure` — what ended a run, and `Failure.message`, how it is reported.
-/

namespace EnvSchema

/-- **Why a question was left without an answer.** -/
inductive Refusal where
  | canceled
  | interrupted
  /-- There is no terminal to ask on. -/
  | noTerminal
  /-- Another reason, in words of its own. -/
  | other (reason : String)
  deriving Repr, DecidableEq, Inhabited

/-- How a refusal is reported. -/
def Refusal.message : Refusal → String
  | canceled => "Operation was canceled by the user"
  | interrupted => "Operation was interrupted by the user"
  | noTerminal => "The input device is not a TTY"
  | other reason => reason

/-- **What was tried with a file**, where a report says so. -/
inductive Attempt where
  | read
  | readSchema
  | writeSchema
  /-- To start from a folder. -/
  | start
  deriving Repr, DecidableEq, Inhabited

/-- What is said before the reason why an attempt failed. -/
def Attempt.message (path : String) : Attempt → String
  | read => "failed to read " ++ path
  | readSchema => "failed to read schema " ++ path
  | writeSchema => "failed to write schema " ++ path
  | start => path ++ " does not exist"

/-- **What ended a run.** -/
inductive Failure where
  /-- Neither the folder to start from nor one that it lies in is a project. -/
  | noProject (start : String)
  | noEnvFolder (path : String)
  | noSchemaFile (folder : String)
  /-- The schema does not import the library that it has to be made with. -/
  | otherLibrary (library : String)
  /-- The file is not a module. -/
  | script (path : String) (complaint : Script.Complaint)
  /-- No object with the server's fields is bound to the name. -/
  | noObject (name : String)
  /-- The text of a field is not a property. -/
  | field (fault : Script.Module.PropertyFault)
  /-- A file or folder cannot be used; the attempt is named if there is one. -/
  | file (attempt : Option (Attempt × String)) (fault : Files.Fault)
  /-- The manifest at the path cannot be read as one. -/
  | manifest (path reason : String)
  | pattern (pattern : String) (fault : Glob.Fault)
  /-- No settings can be made of a text. -/
  | settings (text : String) (complaint : Data.Toml.Complaint)
  /-- There are settings already. -/
  | settingsExist
  | refused (refusal : Refusal)
  deriving Repr, DecidableEq

/-- **How a failure is reported.** -/
def Failure.message : Failure → String
  | noProject start => "Could not find a package.json in " ++ start ++ " or any parent directory"
  | noEnvFolder path => "Could not find env folder at " ++ path ++ ". Please create it."
  | noSchemaFile folder => "Could not find a schema file in " ++ folder
  | otherLibrary library =>
    "This CLI can only work with \"" ++ library ++
      "\" and an scaffolded project from \"create-t3-app\""
  | script path complaint => "Failed to parse " ++ path ++ ": " ++ complaint.message
  | noObject name => "Could not find a `" ++ name ++ "` object in the schema file"
  | field fault => fault.message
  | file none fault => fault.message
  | file (some (attempt, path)) fault => attempt.message path ++ ": " ++ fault.message
  | manifest path reason => "invalid " ++ path ++ ": " ++ reason
  | pattern text fault => "bad pattern " ++ text ++ ": " ++ fault.message
  | settings text complaint => complaint.report text
  | settingsExist => "Configuration already exists. Use --force to overwrite."
  | refused refusal => refusal.message

instance : Inhabited Failure := ⟨.settingsExist⟩

namespace Files

/-- The result of using a file, where a fault ends the run without a word on what was tried. -/
def orFail {α : Type} (result : Except Fault α) : Except Failure α := result.mapError (Failure.file none)

/-- The result of using the file at a path for something. -/
def orFailAt {α : Type} (attempt : Attempt) (path : String) (result : Except Fault α) :
    Except Failure α :=
  result.mapError (Failure.file (some (attempt, path)))

end Files

end EnvSchema

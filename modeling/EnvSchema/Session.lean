import EnvSchema.Failure
import EnvSchema.Schema.Guess

/-!
# Sessions

A run works on the files of a project, asks its user questions and prints. All three are values, so
a run is a function from one session to another, and what happened before a failure can still be
seen after it.

* `Question`, `Prompter` — what is asked, and who answers;
* `Session`, `Run` — what a run works on, and the runs;
* `Run.confirm`, `Run.pick` — asking, which is remembered whatever the answer is.
-/

namespace EnvSchema

/-- **A question about a variable.** -/
inductive Question where
  /-- Whether it is to be added to the schema. -/
  | confirm (name : String)
  /-- Which of the types is its own. -/
  | pick (name : String) (choices : List FieldType)
  deriving Repr, DecidableEq

/-- **Who answers the questions.** An answer may hang on everything that was asked before. -/
structure Prompter where
  confirm : List Question → String → Except Refusal Bool
  pick : List Question → String → List FieldType → Except Refusal FieldType

/-- **What a run works on.** -/
structure Session where
  tree : Files.Tree
  /-- The questions that have been asked, in their order. -/
  asked : List Question := []
  /-- What has been printed. -/
  printed : String := ""

/-- **A run.** At a failure the session stays as it was left. -/
abbrev Run := EStateM Failure Session

namespace Run

variable {α : Type}

/-- A result that may be a failure, as a run. -/
def ofExcept (result : Except Failure α) : Run α :=
  match result with
  | .ok a => pure a
  | .error f => throw f

/-- What the files are asked for. -/
def look (f : Files.Tree → Except Failure α) : Run α := do ofExcept (f (← get).tree)

/-- Changes the files. -/
def change (f : Files.Tree → Except Failure Files.Tree) : Run Unit := do
  let tree ← look f
  modify fun s => { s with tree := tree }

/-- Prints a line. -/
def say (line : String) : Run Unit := modify fun s => { s with printed := s.printed ++ line ++ "\n" }

/-- An answer, or the failure that its refusal is. -/
def answered (answer : Except Refusal α) : Run α := ofExcept (answer.mapError Failure.refused)

/-- **Asks whether a variable is to be added.** -/
def confirm (p : Prompter) (name : String) : Run Bool := do
  let before := (← get).asked
  modify fun s => { s with asked := before ++ [.confirm name] }
  answered (p.confirm before name)

/-- **Asks for the type of a variable.** -/
def pick (p : Prompter) (name : String) (choices : List FieldType) : Run FieldType := do
  let before := (← get).asked
  modify fun s => { s with asked := before ++ [.pick name choices] }
  answered (p.pick before name choices)

end Run

end EnvSchema

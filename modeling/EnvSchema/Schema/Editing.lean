import EnvSchema.Schema.Schema
import EnvSchema.Session

/-!
# Editing the schema

The schema is loaded from its file, fields are added to it, and it is saved to its file. Meanwhile
the file still holds what it held before.

* `Schema.load` — reads the schema in a file;
* `Schema.requireLibrary` — refuses a schema that is not made with the library;
* `Edit` — runs in which there is a schema;
* `Edit.add`, `Edit.save` — adds a field, and saves the schema if there is something to save.
-/

namespace EnvSchema

open Files (Tree)

/-- **Reads the schema in a file.** -/
def Schema.load (t : Tree) (path : String) : Except Failure Schema := do
  let source ← Files.orFailAt .readSchema path (t.readText path)
  (Schema.parse path source).mapError (Failure.script path)

/-- **Refuses a schema that does not import the library.** -/
def Schema.requireLibrary (s : Schema) (library : String) : Except Failure Unit :=
  if s.module.imports library then .ok () else .error (.otherLibrary library)

/-- A session with the schema that is edited in it. -/
structure Editing where
  session : Session
  schema : Schema

/-- **A run in which there is a schema.** At a failure both stay as they were left. -/
abbrev Edit := EStateM Failure Editing

/-- A run that leaves the schema alone. -/
instance : MonadLift Run Edit where
  monadLift run := fun e =>
    match run e.session with
    | .ok a s => .ok a { e with session := s }
    | .error f s => .error f { e with session := s }

namespace Edit

/-- **A run with a schema as part of one without**; the schema is dropped at its end. -/
def within {α : Type} (s : Schema) (edit : Edit α) : Run α := fun session =>
  match edit ⟨session, s⟩ with
  | .ok a e => .ok a e.session
  | .error f e => .error f e.session

/-- The schema. -/
def schema : Edit Schema := return (← get).schema

/-- Takes another schema. -/
def setSchema (s : Schema) : Edit Unit := modify fun e => { e with schema := s }

/-- A fault of adding a field, as a failure. -/
def ofAddFault : AddFault → Failure
  | .field fault => .field fault
  | .noObject name => .noObject name

/-- **Adds the field of a variable** and says whether there was anything to add. -/
def add (name : String) (type : FieldType) (settings : SchemaSettings) : Edit Bool := do
  match (← schema).add name type settings with
  | .error f => throw (ofAddFault f)
  | .ok (isAdded, s) =>
    setSchema s
    return isAdded

/-- **Saves the schema** if fields have been added to it, and says whether they had. Afterwards it
is what its file holds. -/
def save : Edit Bool := do
  let s ← schema
  if !s.hasPending then return false
  let (text, s) := s.print
  setSchema s
  Run.change fun t => Files.orFailAt .writeSchema s.path (t.writeText s.path text)
  match s.readBack text with
  | .ok s =>
    setSchema s
    return true
  | .error c => throw (.script s.path c)

end Edit

end EnvSchema

import EnvSchema.Config.Settings
import EnvSchema.Data.Toml.Reader.Document
import EnvSchema.Number.Shortest

/-!
# Settings in a document

A table holds a group of settings by their keys. A list may stand for the table: it holds the values
in the order in which the settings are listed here. What is not set keeps its default, and what is
no setting is passed over.

* `Decode` — what is made of a value;
* `group` — a group of settings;
* `decodeProject`, `decodeUser` — the settings in a text.
-/

namespace EnvSchema.Config

open Data (Found)
open Data.Toml (Item Table Span Complaint ValueFault)

/-- **What is made of a value.** A value that is written nowhere is shown where its key is. -/
abbrev Decode (α : Type) := Span → Item → Except Complaint α

/-- A complaint about a value. -/
def complain {α : Type} (key : Span) (item : Item) (fault : ValueFault) : Except Complaint α :=
  .error ⟨.value fault, item.span?.getD key⟩

/-- What a value is, where another kind of value was expected. -/
def found : Item → Found
  | .text _ s => .text s
  | .whole _ n => .whole n
  | .real _ x => .real (Number.pointed x)
  | .switch _ b => .switch b
  | .list .. | .tables _ => .list
  | .moment _ | .table _ => .table

/-- A complaint about a value of another kind. -/
def mismatch {α : Type} (expected : String) : Decode α := fun key item =>
  complain key item (.mismatch (found item) expected)

/-! ### Single values -/

/-- A string; how it is named differs. -/
def textNamed (expected : String) : Decode String
  | _, .text _ s => .ok s
  | key, item => mismatch expected key item

/-- A string. -/
def text : Decode String := textNamed "a string"

/-- A path. -/
def path : Decode String := textNamed "path string"

/-- Yes or no. -/
def switch : Decode Bool
  | _, .switch _ b => .ok b
  | key, item => mismatch "a boolean" key item

/-- The values of a list. Tables in double brackets make up a list too. -/
def items? : Item → Option (List Item)
  | .list _ items => some items
  | .tables ts => some (ts.map Item.table)
  | _ => none

/-- A list of strings. -/
def texts : Decode (List String) := fun key item =>
  match items? item with
  | some items => items.mapM (text key)
  | none => mismatch "a sequence" key item

/-- The source of variables that goes by a name, which stands at a place. -/
def sourceNamed (place : Span) : String → Except Complaint VariableSource
  | "process" => .ok .process
  | "dotenv" => .ok .files
  | name => .error ⟨.value (.unknownVariant name ["process", "dotenv"]), place⟩

/-- The source of variables: its name, or a table with nothing but its name and an empty value. -/
def source : Decode VariableSource := fun key item =>
  match item with
  | .text place name => sourceNamed place name
  | .table t =>
    match t.entries with
    | [] => complain key item (.manyNames true)
    | [(k, value)] => do
      let s ← sourceNamed k.span k.name
      match value with
      | .table inner =>
        if inner.entries.isEmpty then return s else complain k.span value (.notEmpty "table")
      | .list .. | .tables _ =>
        if ((items? value).getD []).isEmpty then return s else complain k.span value (.notEmpty "array")
      | _ => complain k.span value (.notTable value.kind)
    | _ => complain key item (.manyNames false)
  | _ => complain key item .noName

/-! ### Groups -/

/-- **A setting**: its key, and the group with the value that the setting is given. -/
structure Field (σ : Type) where
  key : String
  set : σ → Decode σ

/-- A setting of a kind. -/
def Field.of {σ α : Type} (key : String) (decode : Decode α) (set : σ → α → σ) : Field σ where
  key := key
  set s place item := return set s (← decode place item)

/-- The settings that a list gives, in their order. What comes behind the last one is passed
over. -/
def inOrder {σ : Type} (place : Span) (s : σ) : List (Field σ) → List Item → Except Complaint σ
  | f :: fs, item :: items => do inOrder place (← f.set s place item) fs items
  | _, _ => .ok s

/-- The settings that the entries of a table give. -/
def byKey {σ : Type} (fields : List (Field σ)) (s : σ) (t : Table) : Except Complaint σ :=
  t.entries.foldlM
    (fun s (k, item) =>
      match fields.find? fun f => f.key == k.name with
      | some f => f.set s k.span item
      | none => .ok s)
    s

/-- **A group of settings**, where the rest is as in a given one. -/
def group {σ : Type} (name : String) (fields : List (Field σ)) (default : σ) : Decode σ := fun key item =>
  match item with
  | .table t => byKey fields default t
  | .moment _ => .ok default
  | item =>
    match items? item with
    | some items => inOrder key default fields items
    | none => mismatch ("struct " ++ name) key item

/-- The settings of the schema. -/
def schemaFields : List (Field SchemaSettings) :=
  [ .of "env_dir" path fun s v => { s with envFolder := v }
  , .of "schema_file" text fun s v => { s with file := some v }
  , .of "server_schema" text fun s v => { s with object := v }
  , .of "library" text fun s v => { s with library := v }
  , .of "namespace" text fun s v => { s with space := v } ]

/-- The settings of the environment. -/
def environmentFields : List (Field EnvironmentSettings) :=
  [ .of "source" source fun s v => { s with source := v }
  , .of "ignore" texts fun s v => { s with ignore := v } ]

/-- The settings of the search. -/
def scanFields : List (Field ScanSettings) :=
  [ .of "source_dir" path fun s v => { s with folder := v }
  , .of "exclude" texts fun s v => { s with exclude := v } ]

/-- The groups of the settings of a project. -/
def projectFields : List (Field ProjectSettings) :=
  [ .of "schema" (group "SchemaConfig" schemaFields {}) fun s v => { s with schema := v }
  , .of "env" (group "EnvConfig" environmentFields {}) fun s v => { s with environment := v }
  , .of "scan" (group "ProjectScanConfig" scanFields {}) fun s v => { s with scan := v } ]

/-- The groups of the settings of a user. -/
def userFields : List (Field UserSettings) :=
  [ .of "display" (group "DisplayConfig" [.of "spinners" switch fun (_ : Bool) v => v] true)
      fun s v => { s with spinners := v }
  , .of "scan"
      (group "ScanConfig" [.of "extensions" texts fun (_ : List String) v => v]
        ({} : UserSettings).extensions)
      fun s v => { s with extensions := v } ]

/-- **The settings of a project in a text.** -/
def decodeProject (source : String) : Except Complaint ProjectSettings := do
  byKey projectFields {} (← Data.Toml.parse source)

/-- **The settings of a user in a text.** -/
def decodeUser (source : String) : Except Complaint UserSettings := do
  byKey userFields {} (← Data.Toml.parse source)

end EnvSchema.Config
